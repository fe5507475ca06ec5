import CatalogSearch.Filter
import CatalogSearch.FilterError
/-!
Structured filters. A filter parameter is a list of elements, each of one of the shapes
`name, op, val`, `or`, `and` or a single field with its value. `ofJson` says of any value which shape it
has; every other step goes by the shape.
-/
namespace CatalogSearch

inductive Condition where
  | equals (value : Json)
  | differs (value : Json)
  | contains (value : Json)
  | oneOf (values : List Json)
deriving Repr

/-- Null stands for no value: to equal it is to be absent, to differ from it is to be present. -/
def Condition.onField (field : String) : Condition → Filter
  | .equals value => if value.isNull then .not (.present field) else .term field value
  | .differs value => if value.isNull then .present field else .not (.term field value)
  | .contains value => .contains field value
  | .oneOf values => .oneOf field values

inductive Join where
  | all
  | any
deriving DecidableEq, Repr

def Join.of : Join → List Filter → Option Filter
  | .all => Filter.all?
  | .any => Filter.any?

inductive Shape where
  | group (join : Join) (members : List Json)
  | leaf (field : String) (condition : Condition)
  | malformed (reason : Malformation)

namespace Shape

def ofGroup (join : Join) : Json → Shape
  | .array members => .group join members
  | _ => .malformed .groupWithoutList

def operation? : Json → Option (Json → Option Condition)
  | .string "eq" => some (some ∘ .equals)
  | .string "ne" => some (some ∘ .differs)
  | .string "any" => some (some ∘ .contains)
  | .string "in_" => some fun value => value.items?.map .oneOf
  | _ => none

def ofOperation (members : List (String × Json)) (op : Json) : Shape :=
  match operation? op with
  | none => .malformed .unknownOperation
  | some operation =>
    match (Table.find? members "name").bind Json.text? with
    | none => .malformed .nameMissing
    | some field =>
      if Field.isPath field then
        match Table.find? members "val" with
        | none => .malformed .valueMissing
        | some value =>
          match operation value with
          | none => .malformed .listExpected
          | some condition => .leaf field condition
      else .malformed .emptySegment

/-- The member `or` is looked for first, then `and`, then `op`. -/
def ofMembers (members : List (String × Json)) : Shape :=
  match Table.find? members "or" with
  | some value => ofGroup .any value
  | none =>
    match Table.find? members "and" with
    | some value => ofGroup .all value
    | none =>
      match Table.find? members "op" with
      | some op => ofOperation members op
      | none =>
        match members with
        | [(field, value)] =>
          if Field.isPath field then .leaf field (.equals value) else .malformed .emptySegment
        | _ => .malformed .unknownShape

def of : Json → Shape
  | .object members => ofMembers members
  | _ => .malformed .notAnObject

theorem sizeOf_find? {members : List (String × Json)} {name : String} {value : Json}
    (h : Table.find? members name = some value) : sizeOf value < sizeOf members := by
  induction members with
  | nil => simp [Table.find?] at h
  | cons entry rest ih =>
    obtain ⟨k, v⟩ := entry
    simp only [Table.find?] at h
    split at h
    · simp only [Option.some.injEq] at h
      subst h
      simp only [List.cons.sizeOf_spec, Prod.mk.sizeOf_spec]
      omega
    · have := ih h
      simp only [List.cons.sizeOf_spec]
      omega

theorem sizeOf_ofGroup {j join : Join} {value : Json} {ms : List Json} (h : ofGroup j value = .group join ms) :
    sizeOf ms < sizeOf value := by
  cases value <;> simp_all [ofGroup]

theorem ofOperation_ne_group {members : List (String × Json)} {op : Json} {join : Join} {ms : List Json} :
    ofOperation members op ≠ .group join ms := by
  unfold ofOperation
  intro h
  repeat' split at h
  all_goals cases h

theorem sizeOf_of {v : Json} {join : Join} {ms : List Json} (h : of v = .group join ms) :
    sizeOf ms < sizeOf v := by
  cases v with
  | object members =>
    simp only [of, ofMembers] at h
    split at h
    · next value hf =>
      have := sizeOf_find? hf
      have := sizeOf_ofGroup h
      simp only [Json.object.sizeOf_spec]
      omega
    · split at h
      · next value hf =>
        have := sizeOf_find? hf
        have := sizeOf_ofGroup h
        simp only [Json.object.sizeOf_spec]
        omega
      · split at h
        · exact absurd h ofOperation_ne_group
        · split at h
          · split at h <;> cases h
          · cases h
  | _ => cases h

end Shape

inductive Criterion where
  | group (join : Join) (members : List Criterion)
  | leaf (field : String) (condition : Condition)
  | malformed (reason : Malformation) (element : Json)
deriving Repr

/-- What becomes of elements without a meaning: they are left out, or the first of them is an error. -/
inductive Policy where
  | lenient
  | strict
deriving DecidableEq, Repr, Inhabited

namespace Criterion

def ofJson (v : Json) : Criterion :=
  match _h : Shape.of v with
  | .group join members => .group join (members.attach.map fun ⟨member, _⟩ => ofJson member)
  | .leaf field condition => .leaf field condition
  | .malformed reason => .malformed reason v
termination_by sizeOf v
decreasing_by
  have := Shape.sizeOf_of _h
  have := List.sizeOf_lt_of_mem ‹member ∈ members›
  omega

theorem ofJson_group {v : Json} {join : Join} {members : List Json} (h : Shape.of v = .group join members) :
    ofJson v = .group join (members.map ofJson) := by
  rw [ofJson]
  split <;> simp_all

theorem ofJson_leaf {v : Json} {field : String} {condition : Condition}
    (h : Shape.of v = .leaf field condition) : ofJson v = .leaf field condition := by
  rw [ofJson]
  split <;> simp_all

theorem ofJson_malformed {v : Json} {reason : Malformation} (h : Shape.of v = .malformed reason) :
    ofJson v = .malformed reason v := by
  rw [ofJson]
  split <;> simp_all

mutual

/-- The filter of an element. A group without a member that has a filter has none itself. -/
def filter? (policy : Policy) : Criterion → Except FilterError (Option Filter)
  | .group join members => do
    let filters ← filters policy members
    pure (join.of filters)
  | .leaf field condition => pure (some (.inScopes field (condition.onField field)))
  | .malformed reason element =>
    match policy with
    | .lenient => pure none
    | .strict => throw (.malformed reason element)

def filters (policy : Policy) : List Criterion → Except FilterError (List Filter)
  | [] => pure []
  | criterion :: rest => do
    let first ← filter? policy criterion
    let others ← filters policy rest
    pure (first.toList ++ others)

end

end Criterion

def Criteria.elements : Json → List Json
  | .array items => items
  | v => [v]

def Criteria.filter? (policy : Policy) (v : Json) : Except FilterError (Option Filter) := do
  let filters ← Criterion.filters policy ((Criteria.elements v).map Criterion.ofJson)
  pure (Filter.all? filters)

end CatalogSearch
