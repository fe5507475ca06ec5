import CatalogSearch.Criterion
/-!
The shapes of filter elements, told by their members. The main statements are `of_eq_group_iff`, for the groups, and
`of_eq_leaf_iff`: an element that asks something of a field applies an operation to it with a value, or has the field
for its only member.
-/
namespace CatalogSearch

theorem Table.find?_singleton_eq_none_iff {κ α : Type} [DecidableEq κ] {k key : κ} {value : α} :
    find? [(k, value)] key = none ↔ k ≠ key := by
  rw [find?]
  split
  · next h => simp [h]
  · next h => exact iff_of_true rfl h

def Join.member : Join → String
  | .all => "and"
  | .any => "or"

namespace Shape

@[elab_as_elim]
theorem induction {P : Json → Prop}
    (group : ∀ v join members, of v = .group join members → (∀ member ∈ members, P member) → P v)
    (leaf : ∀ v field condition, of v = .leaf field condition → P v)
    (malformed : ∀ v reason, of v = .malformed reason → P v) (v : Json) : P v :=
  match h : of v with
  | .group join members =>
    group v join members h fun member hm =>
      have := sizeOf_of h
      have := List.sizeOf_lt_of_mem hm
      induction group leaf malformed member
  | .leaf field condition => leaf v field condition h
  | .malformed reason => malformed v reason h
termination_by sizeOf v

theorem ofGroup_eq_group_iff {j join : Join} {value : Json} {members : List Json} :
    ofGroup j value = .group join members ↔ j = join ∧ value = .array members := by
  cases value <;> simp [ofGroup]

theorem ofMembers_eq_group_iff {fields : List (String × Json)} {join : Join} {members : List Json} :
    ofMembers fields = .group join members ↔
      Table.find? fields join.member = some (.array members) ∧
        (join = .all → Table.find? fields "or" = none) := by
  fun_cases ofMembers fields with
  | case1 fields value hor => cases join <;> simp [Join.member, ofGroup_eq_group_iff, hor]
  | case2 fields hor value hand => cases join <;> simp [Join.member, ofGroup_eq_group_iff, hor, hand]
  | case3 fields hor hand op hop => cases join <;> simp [Join.member, hor, hand, ofOperation_ne_group]
  | case4 field value hpath hor hand hop => cases join <;> simp [Join.member, hor, hand]
  | case5 field value hpath hor hand hop => cases join <;> simp [Join.member, hor, hand]
  | case6 fields hor hand hop hsingle => cases join <;> simp [Join.member, hor, hand]

theorem ofMembers_ne_group {fields : List (String × Json)} (hor : Table.find? fields "or" = none)
    (hand : Table.find? fields "and" = none) (join : Join) (members : List Json) :
    ofMembers fields ≠ .group join members := by
  rw [Ne, ofMembers_eq_group_iff]
  cases join <;> simp [Join.member, hor, hand]

theorem of_eq_group_iff {v : Json} {join : Join} {members : List Json} :
    of v = .group join members ↔ ∃ fields, v = .object fields ∧
      Table.find? fields join.member = some (.array members) ∧
        (join = .all → Table.find? fields "or" = none) := by
  cases v with
  | object fields => simp [of, ofMembers_eq_group_iff]
  | _ => simp [of]

theorem text?_find?_eq_some_iff {fields : List (String × Json)} {key text : String} :
    (Table.find? fields key).bind Json.text? = some text ↔ Table.find? fields key = some (.string text) := by
  cases Table.find? fields key with
  | none => simp
  | some v => cases v <;> simp [Json.text?]

theorem malformed_ne_leaf {reason : Malformation} {name : String} {condition : Condition} :
    malformed reason ≠ .leaf name condition := by
  intro h
  cases h

theorem ofGroup_ne_leaf {join : Join} {value : Json} {name : String} {condition : Condition} :
    ofGroup join value ≠ .leaf name condition := by
  cases value <;> simp [ofGroup]

theorem ofGroup_eq_malformed {value : Json} (join : Join) (h : ∀ elements, value = .array elements → False) :
    ofGroup join value = .malformed .groupWithoutList := by
  cases value with
  | array elements => exact absurd rfl (h elements)
  | _ => rfl

theorem ofOperation_eq_leaf_iff {fields : List (String × Json)} {op : Json} {name : String}
    {condition : Condition} :
    ofOperation fields op = .leaf name condition ↔
      (Table.find? fields "name").bind Json.text? = some name ∧ Field.isPath name = true ∧
        ∃ value, Table.find? fields "val" = some value ∧
          ((operation? op).bind fun takes => takes value) = some condition := by
  fun_cases ofOperation fields op with
  | case1 hop => simp [hop]
  | case2 takes hop hname => simp [hname]
  | case3 takes hop field hname hpath hvalue => simp [hvalue]
  | case4 takes hop field hname hpath value hvalue hcondition => simp [hop, hvalue, hcondition]
  | case5 takes hop field hname hpath value hvalue condition hcondition =>
    rw [Shape.leaf.injEq, hop, hname, hvalue, Option.some.injEq]
    constructor
    · rintro ⟨rfl, rfl⟩
      exact ⟨rfl, hpath, value, rfl, hcondition⟩
    · rintro ⟨rfl, -, v, hv, hsame⟩
      cases hv
      exact ⟨rfl, Option.some.inj (hcondition.symm.trans hsame)⟩
  | case6 takes hop field hname hpath =>
    rw [hname, Option.some.injEq]
    refine iff_of_false malformed_ne_leaf ?_
    rintro ⟨rfl, hname, -⟩
    exact hpath hname

theorem ofMembers_eq_leaf_iff {fields : List (String × Json)} {name : String} {condition : Condition} :
    ofMembers fields = .leaf name condition ↔
      Table.find? fields "or" = none ∧ Table.find? fields "and" = none ∧
        ((∃ op, Table.find? fields "op" = some op ∧ ofOperation fields op = .leaf name condition) ∨
          (Table.find? fields "op" = none ∧ Field.isPath name = true ∧
            ∃ value, fields = [(name, value)] ∧ condition = .equals value)) := by
  fun_cases ofMembers fields with
  | case1 fields value hor => simp [hor, ofGroup_ne_leaf]
  | case2 fields hor value hand => simp [hand, ofGroup_ne_leaf]
  | case3 fields hor hand op hop => simp [hor, hand, hop]
  | case4 field value hpath hor hand hop =>
    rw [Shape.leaf.injEq, hop]
    constructor
    · rintro ⟨rfl, rfl⟩
      exact ⟨hor, hand, .inr ⟨rfl, hpath, value, rfl, rfl⟩⟩
    · rintro ⟨-, -, ⟨op, hsome, -⟩ | ⟨-, -, v, hfields, rfl⟩⟩
      · cases hsome
      · cases hfields
        exact ⟨rfl, rfl⟩
  | case5 field value hpath hor hand hop =>
    rw [hop]
    refine iff_of_false malformed_ne_leaf ?_
    rintro ⟨-, -, ⟨op, hsome, -⟩ | ⟨-, hname, v, hfields, -⟩⟩
    · cases hsome
    · cases hfields
      exact hpath hname
  | case6 fields hor hand hop hsingle =>
    rw [hop]
    refine iff_of_false malformed_ne_leaf ?_
    rintro ⟨-, -, ⟨op, hsome, -⟩ | ⟨-, -, v, rfl, -⟩⟩
    · cases hsome
    · exact hsingle _ _ rfl

theorem bind_operation?_iff {op value : Json} {condition : Condition} :
    ((operation? op).bind fun takes => takes value) = some condition ↔
      (op = .string "eq" ∧ condition = .equals value) ∨ (op = .string "ne" ∧ condition = .differs value) ∨
        (op = .string "any" ∧ condition = .contains value) ∨
          op = .string "in_" ∧ ∃ values, value = .array values ∧ condition = .oneOf values := by
  fun_cases operation? op with
  | case1 | case2 | case3 => simp [eq_comm]
  | case4 => cases value <;> simp [Json.items?, eq_comm]
  | case5 other heq hne hany hin =>
    refine iff_of_false (by simp) ?_
    rintro (⟨rfl, -⟩ | ⟨rfl, -⟩ | ⟨rfl, -⟩ | ⟨rfl, -⟩)
    · exact heq rfl
    · exact hne rfl
    · exact hany rfl
    · exact hin rfl

end Shape

namespace Element

/-- An element that applies an operation to a field with a value. The order of its members does not matter, nor
does what it has besides. -/
inductive Asks (op field : String) (value : Json) : Json → Prop where
  | intro {members : List (String × Json)} (hor : Table.find? members "or" = none)
      (hand : Table.find? members "and" = none) (hop : Table.find? members "op" = some (.string op))
      (hname : Table.find? members "name" = some (.string field))
      (hvalue : Table.find? members "val" = some value) : Asks op field value (.object members)

def asking (op field : String) (value : Json) : Json :=
  .object [("name", .string field), ("op", .string op), ("val", value)]

theorem asks_asking (op field : String) (value : Json) : Asks op field value (asking op field value) :=
  .intro rfl rfl rfl rfl rfl

end Element

theorem Shape.of_eq_leaf_iff {v : Json} {field : String} {condition : Condition} :
    Shape.of v = .leaf field condition ↔ Field.isPath field = true ∧
      ((∃ op value, Element.Asks op field value v ∧
          ((operation? (.string op)).bind fun takes => takes value) = some condition) ∨
        ∃ value, v = .object [(field, value)] ∧ field ∉ ["or", "and", "op"] ∧ condition = .equals value) := by
  constructor
  · intro h
    cases v with
    | object members =>
      obtain ⟨hor, hand, ⟨op, hop, hshape⟩ | ⟨hop, hpath, value, rfl, rfl⟩⟩ := ofMembers_eq_leaf_iff.1 h
      · obtain ⟨htext, hpath, value, hvalue, hcondition⟩ := ofOperation_eq_leaf_iff.1 hshape
        obtain ⟨name, rfl⟩ : ∃ name, op = .string name := by
          rcases bind_operation?_iff.1 hcondition with ⟨rfl, -⟩ | ⟨rfl, -⟩ | ⟨rfl, -⟩ | ⟨rfl, -⟩ <;> exact ⟨_, rfl⟩
        have hname := text?_find?_eq_some_iff.1 htext
        exact ⟨hpath, .inl ⟨name, value, .intro hor hand hop hname hvalue, hcondition⟩⟩
      · rw [Table.find?_singleton_eq_none_iff] at hor hand hop
        exact ⟨hpath, .inr ⟨value, rfl, by simp [hor, hand, hop], rfl⟩⟩
    | _ => cases h
  · rintro ⟨hpath, ⟨op, value, ⟨hor, hand, hop, hname, hvalue⟩, hcondition⟩ | ⟨value, rfl, hfield, rfl⟩⟩
    · have htext := text?_find?_eq_some_iff.2 hname
      have hshape := ofOperation_eq_leaf_iff.2 ⟨htext, hpath, value, hvalue, hcondition⟩
      exact ofMembers_eq_leaf_iff.2 ⟨hor, hand, .inl ⟨_, hop, hshape⟩⟩
    · simp only [List.mem_cons, List.not_mem_nil, or_false, not_or] at hfield
      have habsent {key : String} (h : field ≠ key) : Table.find? [(field, value)] key = none :=
        Table.find?_singleton_eq_none_iff.2 h
      exact ofMembers_eq_leaf_iff.2 ⟨habsent hfield.1, habsent hfield.2.1,
        .inr ⟨habsent hfield.2.2, hpath, value, rfl, rfl⟩⟩

theorem Shape.isPath_of_leaf {v : Json} {field : String} {condition : Condition}
    (h : of v = .leaf field condition) : Field.isPath field = true :=
  (of_eq_leaf_iff.1 h).1

theorem Element.Asks.of_eq_leaf {op field : String} {value v : Json} {condition : Condition}
    (h : Asks op field value v) (hpath : Field.isPath field = true)
    (hcondition : ((Shape.operation? (.string op)).bind fun takes => takes value) = some condition) :
    Shape.of v = .leaf field condition :=
  Shape.of_eq_leaf_iff.2 ⟨hpath, .inl ⟨op, value, h, hcondition⟩⟩

end CatalogSearch
