import CatalogSearch.Proofs.Binding
import CatalogSearch.Proofs.Pruning
import CatalogSearch.Proofs.Reading
import CatalogSearch.Proofs.Restriction
import Mathlib.Logic.Relation
/-!
Selections for which there is no filter, so that everything is found. The main statement is
`compile_eq_none_iff`: the text has then nothing but keywords and dashes alone, and in the structured filter no
group, however deep, holds anything that is asked of a field.
-/
namespace CatalogSearch

theorem Join.of_eq_none_iff {join : Join} {filters : List Filter} : join.of filters = none ↔ filters = [] := by
  cases join with
  | all => exact Filter.all?_eq_none_iff
  | any => exact Filter.any?_eq_none_iff

namespace Element

inductive HasMember : Json → Json → Prop where
  | any {fields : List (String × Json)} {members : List Json} {member : Json}
      (hor : Table.find? fields "or" = some (.array members)) (hmember : member ∈ members) :
      HasMember (.object fields) member
  | all {fields : List (String × Json)} {members : List Json} {member : Json}
      (hor : Table.find? fields "or" = none) (hand : Table.find? fields "and" = some (.array members))
      (hmember : member ∈ members) : HasMember (.object fields) member

/-- An element that asks something of a field: with an operation, or by the field's name with a value. -/
inductive AsksField : Json → Prop where
  | operation {fields : List (String × Json)} {op name : String} {value : Json}
      (hor : Table.find? fields "or" = none) (hand : Table.find? fields "and" = none)
      (hop : Table.find? fields "op" = some (.string op)) (hknown : op ∈ ["eq", "ne", "any", "in_"])
      (hname : Table.find? fields "name" = some (.string name)) (hpath : Field.isPath name = true)
      (hvalue : Table.find? fields "val" = some value)
      (hlist : op = "in_" → ∃ values, value = .array values) : AsksField (.object fields)
  | single {name : String} {value : Json} (hor : name ≠ "or") (hand : name ≠ "and") (hop : name ≠ "op")
      (hpath : Field.isPath name = true) : AsksField (.object [(name, value)])

theorem hasMember_iff {v member : Json} :
    HasMember v member ↔ ∃ join members, Shape.of v = .group join members ∧ member ∈ members := by
  constructor
  · rintro (⟨hor, hmember⟩ | ⟨hor, hand, hmember⟩)
    · exact ⟨.any, _, Shape.of_eq_group_iff.2 ⟨_, rfl, hor, nofun⟩, hmember⟩
    · exact ⟨.all, _, Shape.of_eq_group_iff.2 ⟨_, rfl, hand, fun _ => hor⟩, hmember⟩
  · rintro ⟨join, members, hshape, hmember⟩
    obtain ⟨fields, rfl, hlist, hor⟩ := Shape.of_eq_group_iff.1 hshape
    cases join with
    | any => exact .any hlist hmember
    | all => exact .all (hor rfl) hlist hmember

theorem exists_condition_iff {op value : Json} :
    (∃ condition, ((Shape.operation? op).bind fun takes => takes value) = some condition) ↔
      ∃ name, op = .string name ∧ name ∈ ["eq", "ne", "any", "in_"] ∧
        (name = "in_" → ∃ values, value = .array values) := by
  simp only [Shape.bind_operation?_iff]
  constructor
  · rintro ⟨condition, ⟨rfl, -⟩ | ⟨rfl, -⟩ | ⟨rfl, -⟩ | ⟨rfl, values, rfl, -⟩⟩ <;> simp
  · rintro ⟨name, rfl, hknown, hlist⟩
    simp only [List.mem_cons, List.not_mem_nil, or_false] at hknown
    rcases hknown with rfl | rfl | rfl | rfl
    · exact ⟨_, .inl ⟨rfl, rfl⟩⟩
    · exact ⟨_, .inr (.inl ⟨rfl, rfl⟩)⟩
    · exact ⟨_, .inr (.inr (.inl ⟨rfl, rfl⟩))⟩
    · obtain ⟨values, rfl⟩ := hlist rfl
      exact ⟨_, .inr (.inr (.inr ⟨rfl, values, rfl, rfl⟩))⟩

theorem asksField_iff {v : Json} : AsksField v ↔ ∃ name condition, Shape.of v = .leaf name condition := by
  constructor
  · rintro (⟨hor, hand, hop, hknown, hname, hpath, hvalue, hlist⟩ | ⟨hor, hand, hop, hpath⟩)
    · obtain ⟨condition, hcondition⟩ := exists_condition_iff.2 ⟨_, rfl, hknown, hlist⟩
      exact ⟨_, condition, (Asks.intro hor hand hop hname hvalue).of_eq_leaf hpath hcondition⟩
    · exact ⟨_, _, Shape.of_eq_leaf_iff.2 ⟨hpath, .inr ⟨_, rfl, by simp [hor, hand, hop], rfl⟩⟩⟩
  · rintro ⟨name, condition, h⟩
    obtain ⟨hpath, ⟨op, value, ⟨hor, hand, hop, hname, hvalue⟩, hcondition⟩ | ⟨value, rfl, hfield, -⟩⟩ :=
      Shape.of_eq_leaf_iff.1 h
    · obtain ⟨_, hop', hknown, hlist⟩ := exists_condition_iff.1 ⟨condition, hcondition⟩
      cases hop'
      exact .operation hor hand hop hknown hname hpath hvalue hlist
    · simp only [List.mem_cons, List.not_mem_nil, or_false, not_or] at hfield
      exact .single hfield.1 hfield.2.1 hfield.2.2 hpath

/-- What an element comes to, through groups: itself, its members, their members and so on. -/
def Reaches : Json → Json → Prop := Relation.ReflTransGen HasMember

theorem reaches_iff {v x : Json} : Reaches v x ↔ v = x ∨ ∃ member, HasMember v member ∧ Reaches member x :=
  Relation.ReflTransGen.cases_head_iff

theorem forall_reaches_group {v : Json} {join : Join} {members : List Json}
    (h : Shape.of v = .group join members) :
    (∀ x, Reaches v x → ¬ AsksField x) ↔ ∀ member ∈ members, ∀ x, Reaches member x → ¬ AsksField x := by
  constructor
  · intro hnone member hmember x hx
    exact hnone x (reaches_iff.2 (.inr ⟨member, hasMember_iff.2 ⟨join, members, h, hmember⟩, hx⟩))
  · intro hnone x hx hasks
    rcases reaches_iff.1 hx with rfl | ⟨member, hmember, hrest⟩
    · obtain ⟨name, condition, hshape⟩ := asksField_iff.1 hasks
      cases h.symm.trans hshape
    · obtain ⟨join, members, hshape, hmember⟩ := hasMember_iff.1 hmember
      cases h.symm.trans hshape
      exact hnone member hmember x hrest hasks

theorem not_asksField_of_malformed {v x : Json} {reason : Malformation} (h : Shape.of v = .malformed reason)
    (hx : Reaches v x) : ¬ AsksField x := by
  intro hasks
  rcases reaches_iff.1 hx with rfl | ⟨member, hmember, -⟩
  · obtain ⟨name, condition, hshape⟩ := asksField_iff.1 hasks
    cases h.symm.trans hshape
  · obtain ⟨join, members, hshape, -⟩ := hasMember_iff.1 hmember
    cases h.symm.trans hshape

/-- An element has no filter exactly where nothing that it comes to asks anything of a field. -/
theorem lenientFilter_eq_none_iff (v : Json) :
    lenientFilter v = none ↔ ∀ x, Reaches v x → ¬ AsksField x := by
  induction v using Shape.induction with
  | group v join members h ih =>
    rw [lenientFilter_group h, Join.of_eq_none_iff, List.filterMap_eq_nil_iff, forall_reaches_group h]
    exact forall₂_congr ih
  | leaf v name condition h =>
    refine iff_of_false ?_ fun hnone => ?_
    · rw [lenientFilter_leaf h]
      exact Option.some_ne_none _
    · exact hnone v .refl (asksField_iff.2 ⟨name, condition, h⟩)
  | malformed v reason h =>
    exact iff_of_true (lenientFilter_malformed h) fun x hx => not_asksField_of_malformed h hx

end Element

theorem Criteria.lenientFilter_eq_none_iff (v : Json) :
    lenientFilter v = none ↔
      ∀ element ∈ elements v, ∀ x, Element.Reaches element x → ¬ Element.AsksField x := by
  rw [lenientFilter_eq, Filter.all?_eq_none_iff, List.filterMap_eq_nil_iff]
  exact forall₂_congr fun element _ => Element.lenientFilter_eq_none_iff element

theorem Clause.terms_eq_nil_iff (tokens : List String) :
    terms false tokens = [] ↔ ∀ token ∈ tokens, token = "AND" ∨ token = "OR" ∨ token = "-" := by
  induction tokens with
  | nil => simp [terms]
  | cons token rest ih =>
    rw [List.forall_mem_cons, ← ih]
    by_cases hidle : isIdle token = true
    · rw [terms_idle hidle]
      rw [isIdle_iff] at hidle
      exact (and_iff_right (hidle.imp_right .inr)).symm
    · by_cases hor : token = "OR"
      · subst hor
        rw [terms_or_first]
        exact (and_iff_right (.inr (.inl rfl))).symm
      · rw [terms_term hidle hor]
        refine iff_of_false (List.cons_ne_nil _ _) fun h => ?_
        rw [isIdle_iff] at hidle
        exact hidle (h.1.imp_right (Or.resolve_left · hor))

namespace Selection

theorem combine_eq_none_iff {f g : Option Filter} :
    (Filter.combine [f, g]).map Filter.simplify = none ↔ f = none ∧ g = none := by
  rw [Option.map_eq_none_iff, Filter.combine, Filter.all?_eq_none_iff]
  cases f <;> cases g <;> simp

/-- Lenient compiling never fails. It gives no filter exactly where the text has no term and nothing that an
element of the structured filter comes to asks anything of a field. -/
theorem compile_eq_none_iff {s : Selection} (hs : s.policy = .lenient) (fields : List String) :
    (∃ f, s.compile fields = .ok f) ∧
      (s.compile fields = .ok none ↔
        (∀ text, s.text = some text →
          ∀ token ∈ Token.tokenize text, token = "AND" ∨ token = "OR" ∨ token = "-") ∧
        ∀ v, s.criteria = some v →
          ∀ element ∈ Criteria.elements v, ∀ x, Element.Reaches element x → ¬ Element.AsksField x) := by
  have hcompile := compile_lenient hs fields
  refine ⟨⟨_, hcompile⟩, ?_⟩
  rw [hcompile, Except.ok.injEq, combine_eq_none_iff, textFilter, Option.bind_eq_none_iff,
    Option.bind_eq_none_iff]
  simp only [Clause.interpret_eq_none_iff, Clause.terms_eq_nil_iff, Criteria.lenientFilter_eq_none_iff]

def siteOfNone : Json := .object [("name", .string "site.id"), ("op", .string "in_"), ("val", .array [])]

def buried : Selection where
  text := some "OR - AND"
  criteria := some (.array
    [.null, .object [("and", .array [.object [("op", .string "eq")], .object [("or", .array [siteOfNone])]])]])
  policy := .lenient

theorem compile_eq_none_iff_buried : buried.policy = .lenient ∧ buried.compile ["label"] ≠ .ok none := by
  have hasks : Element.AsksField siteOfNone :=
    .operation rfl rfl rfl (by decide) rfl (by decide +kernel) rfl fun _ => ⟨[], rfl⟩
  have hinner : Element.HasMember (.object [("or", .array [siteOfNone])]) siteOfNone :=
    .any rfl List.mem_cons_self
  refine ⟨rfl, fun h => ?_⟩
  have hnone := ((compile_eq_none_iff rfl ["label"]).2.1 h).2 _ rfl
  refine hnone _ (List.mem_cons_of_mem _ List.mem_cons_self) _ (.head (.all rfl rfl ?_) (.single hinner)) hasks
  exact List.mem_cons_of_mem _ List.mem_cons_self

end Selection
end CatalogSearch
