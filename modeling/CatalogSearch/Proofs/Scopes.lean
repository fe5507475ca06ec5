import CatalogSearch.Proofs.Branching
import CatalogSearch.Proofs.Unfiltered
/-!
Where the leaves of a structured filter end up. Each element that asks something of a field has leaves of its own,
which stand in the objects that enclose the field. The main statement is `parsed_leaves`: from left to right, a
filter that is parsed has the leaves of its elements one after the other, each in these scopes and in no other.
-/
namespace CatalogSearch

theorem flatMap_filterMap {α β γ : Type} (f : α → Option β) (g : β → List γ) (xs : List α) :
    (xs.filterMap f).flatMap g = xs.flatMap fun x => (f x).toList.flatMap g := by
  rw [List.filterMap_eq_flatMap_toList, List.flatMap_assoc]

/-- A leaf of a filter, with the paths of the nested scopes that it stands in, outermost first. -/
structure Placed where
  scopes : List String
  leaf : Filter

def Placed.within (path : String) (p : Placed) : Placed := { p with scopes := path :: p.scopes }

namespace Filter

mutual

def leaves : Filter → List Placed
  | .not inner => leaves inner
  | .all children => leavesEach children
  | .any children => leavesEach children
  | .nested path inner => (leaves inner).map (Placed.within path)
  | leaf => [⟨[], leaf⟩]

def leavesEach : List Filter → List Placed
  | [] => []
  | child :: rest => leaves child ++ leavesEach rest

end

theorem leavesEach_eq_flatMap (children : List Filter) : leavesEach children = children.flatMap leaves := by
  induction children with
  | nil => rfl
  | cons child rest ih => rw [leavesEach, ih, List.flatMap_cons]

theorem leaves_group (join : Join) (children : List Filter) :
    (join.group children).leaves = children.flatMap leaves := by
  cases join <;> rw [Join.group, leaves, leavesEach_eq_flatMap]

theorem leaves_of_join (join : Join) (filters : List Filter) :
    (join.of filters).toList.flatMap leaves = filters.flatMap leaves := by
  match filters with
  | [] => rw [Join.of_nil]; rfl
  | [single] => rw [Join.of_singleton]; rfl
  | first :: second :: rest =>
    rw [Join.of_cons_cons, Option.toList_some, List.flatMap_singleton, leaves_group]

theorem leaves_inScopes {field : String} {inner : Filter} {own : List Filter}
    (h : inner.leaves = own.map (Placed.mk [])) :
    (inScopes field inner).leaves = own.map (Placed.mk (Field.enclosing field)) := by
  rw [inScopes, Field.scopes_eq_enclosing]
  induction Field.enclosing field with
  | nil => exact h
  | cons path rest ih =>
    rw [List.foldr_cons, leaves, ih, List.map_map]
    rfl

end Filter

/-- What is compared with a value; null is compared with by asking whether there is a value. -/
def Element.comparison (field : String) : Json → Filter
  | .null => .present field
  | value => .term field value

def Element.choices (field : String) : List Json → List Filter
  | [] => [.nothing]
  | first :: rest => (first :: rest).map (.term field)

namespace Condition
open Element (comparison choices)

def asked (field : String) : Condition → List Filter
  | .equals value => [comparison field value]
  | .differs value => [comparison field value]
  | .contains value => [.contains field value]
  | .oneOf values => choices field values

theorem asked_ne_nil (field : String) (condition : Condition) : condition.asked field ≠ [] := by
  cases condition with
  | oneOf values => cases values <;> simp [asked, choices]
  | _ => exact List.cons_ne_nil _ _

theorem leaves_oneOf (field : String) (values : List Json) :
    (Filter.oneOf field values).leaves = (choices field values).map (Placed.mk []) := by
  cases values with
  | nil => rfl
  | cons first rest =>
    have hterms : ((first :: rest).map (Filter.term field)).flatMap Filter.leaves =
        (choices field (first :: rest)).map (Placed.mk []) := by
      rw [choices, List.map_map, List.flatMap_map, List.map_eq_flatMap]
      rfl
    have hjoin := Filter.leaves_of_join .any ((first :: rest).map (Filter.term field))
    rw [Filter.of_terms, Option.toList_some, List.flatMap_singleton] at hjoin
    exact hjoin.trans hterms

theorem leaves_onField (field : String) (condition : Condition) :
    (condition.onField field).leaves = (condition.asked field).map (Placed.mk []) := by
  cases condition with
  | equals value => cases value <;> rfl
  | differs value => cases value <;> rfl
  | contains value => rfl
  | oneOf values => exact leaves_oneOf field values

end Condition

namespace Element

def operands (field : String) : Json → Json → List Filter
  | .string "eq", value => [comparison field value]
  | .string "ne", value => [comparison field value]
  | .string "any", value => [.contains field value]
  | .string "in_", .array values => choices field values
  | _, _ => []

theorem operands_eq (field : String) (op value : Json) :
    operands field op value =
      ((Shape.operation? op).bind fun takes => takes value).elim [] (Condition.asked field) := by
  fun_cases Shape.operation? op with
  | case1 => rfl
  | case2 => rfl
  | case3 => rfl
  | case4 => cases value <;> rfl
  | case5 => unfold operands; split <;> simp_all

theorem operands_ne_nil_iff {field : String} {op value : Json} :
    operands field op value ≠ [] ↔
      ∃ condition, ((Shape.operation? op).bind fun takes => takes value) = some condition := by
  rw [operands_eq]
  cases (Shape.operation? op).bind fun takes => takes value with
  | none => simp
  | some condition => simpa using condition.asked_ne_nil field

def placedAt (field : String) (leaves : List Filter) : List Placed :=
  if Field.isPath field then leaves.map (Placed.mk (Field.enclosing field)) else []

theorem placedAt_ne_nil_iff {field : String} {leaves : List Filter} :
    placedAt field leaves ≠ [] ↔ Field.isPath field = true ∧ leaves ≠ [] := by
  simp [placedAt]

/-- The leaves of an element by itself. It has none if it is a group, or asks nothing of a field. -/
def ownLeaves : Json → List Placed
  | .object members =>
    match Table.find? members "or", Table.find? members "and", Table.find? members "op" with
    | none, none, some op =>
      match Table.find? members "name", Table.find? members "val" with
      | some (.string field), some value => placedAt field (operands field op value)
      | _, _ => []
    | none, none, none =>
      match members with
      | [(field, value)] => placedAt field [comparison field value]
      | _ => []
    | _, _, _ => []
  | _ => []

theorem ownLeaves_leaf {v : Json} {field : String} {condition : Condition}
    (h : Shape.of v = .leaf field condition) :
    ownLeaves v = (condition.asked field).map (Placed.mk (Field.enclosing field)) := by
  cases v with
  | object members =>
    obtain ⟨hor, hand, ⟨op, hop, hshape⟩ | ⟨hop, hpath, value, rfl, rfl⟩⟩ := Shape.ofMembers_eq_leaf_iff.1 h
    · obtain ⟨htext, hpath, value, hvalue, hcondition⟩ := Shape.ofOperation_eq_leaf_iff.1 hshape
      have hname := Shape.text?_find?_eq_some_iff.1 htext
      simp only [ownLeaves, hor, hand, hop, hname, hvalue]
      rw [placedAt, if_pos hpath, operands_eq, hcondition, Option.elim_some]
    · simp only [ownLeaves, hor, hand, hop]
      rw [placedAt, if_pos hpath, Condition.asked]
  | _ => cases h

theorem ownLeaves_ne_nil_iff {v : Json} : ownLeaves v ≠ [] ↔ AsksField v := by
  constructor
  · fun_cases ownLeaves v with
    | case1 members op hop hand hor field value hvalue hname =>
      intro h
      obtain ⟨hpath, hoperands⟩ := placedAt_ne_nil_iff.1 h
      obtain ⟨name, rfl, hknown, hlist⟩ := exists_condition_iff.1 (operands_ne_nil_iff.1 hoperands)
      exact .operation hor hand hop hknown hname hpath hvalue hlist
    | case3 field value hop hand hor =>
      intro h
      rw [Table.find?_singleton_eq_none_iff] at hor hand hop
      exact .single hor hand hop (placedAt_ne_nil_iff.1 h).1
    | _ => exact fun h => absurd rfl h
  · intro h
    obtain ⟨name, condition, hshape⟩ := asksField_iff.1 h
    rw [ownLeaves_leaf hshape, Ne, List.map_eq_nil_iff]
    exact condition.asked_ne_nil name

def members? : Json → Option (List Json)
  | .object members => ((Table.find? members "or").or (Table.find? members "and")).bind Json.items?
  | _ => none

theorem members?_eq_some_iff {v : Json} {members : List Json} :
    members? v = some members ↔ ∃ join, Shape.of v = .group join members := by
  cases v with
  | object fields =>
    rw [members?, Option.bind_eq_some_iff]
    constructor
    · rintro ⟨list, hlist, hitems⟩
      cases list with
      | array items =>
        cases hitems
        rcases Option.or_eq_some_iff.1 hlist with hor | ⟨hor, hand⟩
        · exact ⟨.any, Shape.of_eq_group_iff.2 ⟨fields, rfl, hor, fun hall => by cases hall⟩⟩
        · exact ⟨.all, Shape.of_eq_group_iff.2 ⟨fields, rfl, hand, fun _ => hor⟩⟩
      | _ => cases hitems
    · rintro ⟨join, h⟩
      obtain ⟨_, hfields, hmember, hor⟩ := Shape.of_eq_group_iff.1 h
      cases hfields
      refine ⟨.array members, Option.or_eq_some_iff.2 ?_, rfl⟩
      cases join with
      | any => exact .inl hmember
      | all => exact .inr ⟨hor rfl, hmember⟩
  | _ => simp [members?, Shape.of]

/-- The elements that an element comes to and that are no groups, in the order of the document. -/
def ends (v : Json) : List Json :=
  match _h : members? v with
  | some members => members.attach.flatMap fun ⟨member, _⟩ => ends member
  | none => [v]
termination_by sizeOf v
decreasing_by
  obtain ⟨join, hshape⟩ := members?_eq_some_iff.1 _h
  have := Shape.sizeOf_of hshape
  have := List.sizeOf_lt_of_mem ‹member ∈ members›
  omega

theorem ends_group {v : Json} {join : Join} {members : List Json} (h : Shape.of v = .group join members) :
    ends v = members.flatMap ends := by
  have hmembers := members?_eq_some_iff.2 ⟨join, h⟩
  rw [ends]
  split <;> simp_all [List.flatMap]

theorem ends_of_ne_group {v : Json} (h : ∀ join members, Shape.of v ≠ .group join members) : ends v = [v] := by
  rw [ends]
  split
  · next members hmembers =>
    obtain ⟨join, hshape⟩ := members?_eq_some_iff.1 hmembers
    exact absurd hshape (h join members)
  · rfl

theorem leaves_lenientFilter (v : Json) :
    (lenientFilter v).toList.flatMap Filter.leaves = (ends v).flatMap ownLeaves := by
  induction v using Shape.induction with
  | group v join members h ih =>
    rw [lenientFilter_group h, Filter.leaves_of_join, flatMap_filterMap, ends_group h, List.flatMap_assoc]
    exact List.flatMap_congr ih
  | leaf v field condition h =>
    have hends : ends v = [v] := ends_of_ne_group (by simp [h])
    rw [hends, List.flatMap_singleton, ownLeaves_leaf h, lenientFilter_leaf h, Option.toList_some,
      List.flatMap_singleton]
    exact Filter.leaves_inScopes (condition.leaves_onField field)
  | malformed v reason h =>
    have hends : ends v = [v] := ends_of_ne_group (by simp [h])
    have hown : ownLeaves v = [] := by
      by_contra hne
      obtain ⟨field, condition, hshape⟩ := asksField_iff.1 (ownLeaves_ne_nil_iff.1 hne)
      cases h.symm.trans hshape
    rw [hends, List.flatMap_singleton, hown, lenientFilter_malformed h]
    rfl

end Element

def Filter.ScopesArePaths : Filter → Prop :=
  Everywhere fun node => ∀ path inner, node = .nested path inner →
    path ≠ "" ∧ ∀ segment ∈ Field.segments path, segment ≠ []

theorem Filter.WellFormed.scopesArePaths {f : Filter} (h : f.WellFormed) : f.ScopesArePaths := by
  induction h with
  | leaf h =>
    refine (everywhere_leaf h).2 fun path inner hnode => ?_
    rw [hnode] at h
    cases h
  | not _ ih => exact everywhere_not.2 ⟨nofun, ih⟩
  | group join _ _ ih => exact everywhere_group.2 ⟨fun _ _ hnode => by (cases join <;> cases hnode), ih⟩
  | nested hpath _ ih =>
    refine everywhere_nested.2 ⟨fun path inner hnode => ?_, ih⟩
    cases hnode
    exact ⟨Field.ne_empty_of_isPath hpath, Field.isPath_iff.1 hpath⟩

namespace Criteria

theorem leaves_of_filter? {policy : Policy} {v : Json} {f : Option Filter} (h : filter? policy v = .ok f) :
    f.toList.flatMap Filter.leaves = ((elements v).flatMap Element.ends).flatMap Element.ownLeaves := by
  have hjoin := Filter.leaves_of_join .all ((elements v).filterMap Element.lenientFilter)
  have helements : (elements v).flatMap (fun x => (Element.lenientFilter x).toList.flatMap Filter.leaves) =
      (elements v).flatMap fun x => (Element.ends x).flatMap Element.ownLeaves :=
    List.flatMap_congr fun x _ => Element.leaves_lenientFilter x
  rw [flatMap_filterMap, helements] at hjoin
  rw [eq_lenientFilter_of_filter? h, lenientFilter_eq, List.flatMap_assoc]
  exact hjoin

/-- Whatever is parsed has the leaves of the elements that ask something of a field, in the order of the document
and as often as they are asked for, and each is in the scopes of its own field, whose paths have no empty segment. -/
theorem parsed_leaves (v : Json) :
    (∃ f, filter? .lenient v = .ok f) ∧
      (∀ policy f, filter? policy v = .ok f →
        f.toList.flatMap Filter.leaves = ((elements v).flatMap Element.ends).flatMap Element.ownLeaves ∧
          ∀ g ∈ f, g.ScopesArePaths) ∧
      ∀ x, Element.ownLeaves x ≠ [] ↔ Element.AsksField x := by
  refine ⟨⟨_, filter?_lenient v⟩, fun policy f h => ?_, fun x => Element.ownLeaves_ne_nil_iff⟩
  exact ⟨leaves_of_filter? h, fun g hg => (wellFormed_of_filter? h g hg).scopesArePaths⟩

example (x : Json) (f : Option Filter) (h : filter? .lenient (.array [x, x]) = .ok f) :
    f.toList.flatMap Filter.leaves =
      (Element.ends x).flatMap Element.ownLeaves ++ (Element.ends x).flatMap Element.ownLeaves := by
  rw [leaves_of_filter? h]
  simp [elements]

end Criteria
end CatalogSearch
