import CatalogSearch.Proofs.Leniency
import CatalogSearch.Proofs.Meaning
import CatalogSearch.Proofs.Shapes
import Mathlib.Data.List.Basic
/-!
A structured filter read straight off its JSON, without a filter in between: what each element says of an
object, if it says anything. The main statement is `lenient_filter_reads`: lenient parsing gives a filter that
asks for just that.
-/
namespace CatalogSearch

universe u
variable {Object : Type u}

namespace Field

def beforeDots : List Char → List (List Char)
  | [] => []
  | c :: rest =>
    if c = '.' then [] :: (beforeDots rest).map (c :: ·) else (beforeDots rest).map (c :: ·)

def enclosing (field : String) : List String := (beforeDots field.toList).map String.ofList

theorem scopesFrom_splitOn {s first : List Char} {rest : List (List Char)} (h : s.splitOn '.' = first :: rest)
    (path : List Char) : scopesFrom (path ++ first) rest = (beforeDots s).map (path ++ ·) := by
  induction s generalizing path first rest with
  | nil =>
    cases h
    rfl
  | cons c s ih =>
    obtain ⟨next, later, hs⟩ := List.exists_cons_of_ne_nil (List.splitOn_ne_nil '.' s)
    have hstep := ih hs (path ++ [c])
    rw [List.splitOn_cons_eq_if_modifyHead, hs] at h
    by_cases hc : c = '.'
    · subst hc
      cases h
      simpa [scopesFrom, beforeDots, Function.comp_def] using hstep
    · rw [if_neg (by simpa using hc)] at h
      cases h
      simpa [beforeDots, hc, Function.comp_def] using hstep

theorem scopes_eq_enclosing (field : String) : scopes field = enclosing field := by
  obtain ⟨first, rest, h⟩ := List.exists_cons_of_ne_nil (List.splitOn_ne_nil '.' field.toList)
  have hscopes := scopesFrom_splitOn h []
  simp only [List.nil_append, List.map_id'] at hscopes
  simp only [scopes, segments, enclosing, h, hscopes]

theorem append_of_mem_beforeDots {name before : List Char} (h : before ∈ beforeDots name) :
    ∃ after, name = before ++ '.' :: after := by
  induction name generalizing before with
  | nil => cases h
  | cons c rest ih =>
    have hlater (h : before ∈ (beforeDots rest).map (c :: ·)) : ∃ after, c :: rest = before ++ '.' :: after := by
      obtain ⟨shorter, hshorter, rfl⟩ := List.mem_map.1 h
      obtain ⟨after, rfl⟩ := ih hshorter
      exact ⟨after, rfl⟩
    rw [beforeDots] at h
    split at h
    · next hc =>
      subst hc
      rcases List.mem_cons.1 h with rfl | h
      · exact ⟨rest, rfl⟩
      · exact hlater h
    · exact hlater h

theorem isPath_iff {field : String} : isPath field = true ↔ ∀ segment ∈ segments field, segment ≠ [] := by
  simp [isPath]

theorem isPath_of_mem_enclosing {field path : String} (h : isPath field = true) (hpath : path ∈ enclosing field) :
    isPath path = true := by
  obtain ⟨before, hbefore, rfl⟩ := List.mem_map.1 hpath
  obtain ⟨after, hafter⟩ := append_of_mem_beforeDots hbefore
  rw [isPath_iff, segments, hafter, List.splitOn_append_cons_self] at h
  rw [isPath_iff, segments, String.toList_ofList]
  exact fun segment hsegment => h segment (List.mem_append_left _ hsegment)

theorem ne_empty_of_isPath {path : String} (h : isPath path = true) : path ≠ "" := by
  rintro rfl
  exact absurd h (by decide +kernel)

end Field

/-- Some object that is reached through an object inside at each of the paths in turn. -/
def Engine.within (e : Engine Object) : List String → (Object → Bool) → Object → Bool
  | [], condition, o => condition o
  | path :: rest, condition, o => (e.inside path o).any (e.within rest condition)

theorem Filter.holds_inScopes (e : Engine Object) (field : String) (inner : Filter) :
    (Filter.inScopes field inner).holds e = e.within (Field.enclosing field) (inner.holds e) := by
  rw [inScopes, Field.scopes_eq_enclosing]
  induction Field.enclosing field with
  | nil => rfl
  | cons path rest ih =>
    funext o
    rw [List.foldr_cons, holds, ih, Engine.within]

theorem Filter.all_holds_all? (e : Engine Object) (filters : List Filter) (o : Object) :
    ((Filter.all? filters).all fun f => f.holds e o) = filters.all fun f => f.holds e o := by
  match filters with
  | [] => rfl
  | [f] => rw [all?, Option.all_some, List.all_cons, List.all_nil, Bool.and_true]
  | first :: second :: rest => exact holds_all e (first :: second :: rest) o

namespace Element
variable (e : Engine Object)

def equals (field : String) (value : Json) (o : Object) : Bool :=
  match value with
  | .null => !e.passes (.present field) o
  | value => e.passes (.term field value) o

def operation (field : String) : Json → Json → Option (Object → Bool)
  | .string "eq", value => some (equals e field value)
  | .string "ne", value => some fun o => !equals e field value o
  | .string "any", value => some (e.passes (.term field value))
  | .string "in_", .array values => some fun o => values.any fun value => e.passes (.term field value) o
  | _, _ => none

def onField (field : String) (condition : Object → Bool) : Option (Object → Bool) :=
  if Field.isPath field then some (e.within (Field.enclosing field) condition) else none

def named (members : List (String × Json)) (op : Json) : Option (Object → Bool) :=
  match Table.find? members "name", Table.find? members "val" with
  | some (.string field), some value => (operation e field op value).bind (onField e field)
  | _, _ => none

def single : List (String × Json) → Option (Object → Bool)
  | [(field, value)] => onField e field (equals e field value)
  | _ => none

def someOf : List (Object → Bool) → Option (Object → Bool)
  | [] => none
  | conditions => some fun o => conditions.any fun condition => condition o

def allOf : List (Object → Bool) → Option (Object → Bool)
  | [] => none
  | conditions => some fun o => conditions.all fun condition => condition o

/-- What an element says of an object. An element that says nothing does not count in its group. -/
def reading : Json → Option (Object → Bool)
  | .object members =>
    match _hor : Table.find? members "or", _hand : Table.find? members "and", Table.find? members "op" with
    | some (.array elements), _, _ => someOf (elements.attach.filterMap fun ⟨x, _⟩ => reading x)
    | some _, _, _ => none
    | none, some (.array elements), _ => allOf (elements.attach.filterMap fun ⟨x, _⟩ => reading x)
    | none, some _, _ => none
    | none, none, some op => named e members op
    | none, none, none => single e members
  | _ => none
termination_by v => sizeOf v
decreasing_by
  all_goals
    have := List.sizeOf_lt_of_mem ‹x ∈ elements›
    have := Shape.sizeOf_find? ‹Table.find? _ _ = some (.array elements)›
    simp only [Json.object.sizeOf_spec, Json.array.sizeOf_spec] at *
    omega

theorem map_holds_any? (filters : List Filter) :
    (Filter.any? filters).map (Filter.holds e) = someOf (filters.map (Filter.holds e)) := by
  match filters with
  | [] => rfl
  | [f] => simp [Filter.any?, someOf]
  | first :: second :: rest =>
    refine congrArg some (funext fun o => ?_)
    rw [Filter.holds_any, List.any_map]
    rfl

theorem map_holds_all? (filters : List Filter) :
    (Filter.all? filters).map (Filter.holds e) = allOf (filters.map (Filter.holds e)) := by
  match filters with
  | [] => rfl
  | [f] => simp [Filter.all?, allOf]
  | first :: second :: rest =>
    refine congrArg some (funext fun o => ?_)
    rw [Filter.holds_all, List.all_map]
    rfl

theorem holds_oneOf (field : String) (values : List Json) :
    (Filter.oneOf field values).holds e = fun o => values.any fun value => e.passes (.term field value) o := by
  funext o
  match values with
  | [] => rfl
  | [value] => simp [Filter.oneOf, Filter.any?, Filter.holds]
  | first :: second :: rest =>
    have h := Filter.holds_any e ((first :: second :: rest).map (Filter.term field)) o
    rw [List.any_map] at h
    exact h

theorem equals_eq_holds (field : String) (value : Json) :
    equals e field value = ((Condition.equals value).onField field).holds e := by
  cases value <;> rfl

theorem differs_eq_holds (field : String) (value : Json) :
    (fun o => !equals e field value o) = ((Condition.differs value).onField field).holds e := by
  cases value with
  | null => exact funext fun o => Bool.not_not _
  | _ => rfl

theorem operation_eq (field : String) (op value : Json) :
    operation e field op value =
      ((Shape.operation? op).bind fun takes => takes value).map fun c => (c.onField field).holds e := by
  fun_cases Shape.operation? op with
  | case1 => exact congrArg some (equals_eq_holds e field value)
  | case2 => exact congrArg some (differs_eq_holds e field value)
  | case3 => rfl
  | case4 =>
    cases value with
    | array values => exact congrArg some (holds_oneOf e field values).symm
    | _ => rfl
  | case5 => unfold operation; split <;> simp_all

def ofShape : Shape → Option (Object → Bool)
  | .leaf field condition => some (e.within (Field.enclosing field) ((condition.onField field).holds e))
  | _ => none

theorem named_eq (members : List (String × Json)) (op : Json) :
    named e members op = ofShape e (Shape.ofOperation members op) := by
  rw [named, Shape.ofOperation]
  cases Table.find? members "name" with
  | none => cases Shape.operation? op <;> rfl
  | some name =>
    cases name with
    | string field =>
      cases Table.find? members "val" with
      | none =>
        cases Shape.operation? op <;> cases hpath : Field.isPath field <;> simp [Json.text?, hpath, ofShape]
      | some value =>
        simp only [operation_eq]
        cases Shape.operation? op with
        | none => rfl
        | some takes =>
          cases hpath : Field.isPath field <;> cases hvalue : takes value <;>
            simp [Json.text?, onField, hpath, hvalue, ofShape]
    | _ => cases Shape.operation? op <;> rfl

theorem single_eq {members : List (String × Json)} (hor : Table.find? members "or" = none)
    (hand : Table.find? members "and" = none) (hop : Table.find? members "op" = none) :
    single e members = ofShape e (Shape.ofMembers members) := by
  simp only [Shape.ofMembers, hor, hand, hop]
  cases members with
  | nil => rfl
  | cons first rest =>
    cases rest with
    | nil =>
      obtain ⟨field, value⟩ := first
      cases hpath : Field.isPath field with
      | false => simp [single, onField, ofShape, hpath]
      | true => simp [single, onField, ofShape, hpath, equals_eq_holds]
    | cons second rest => rfl

theorem map_holds_ofShape {v : Json} {shape : Shape} (h : Shape.of v = shape)
    (hgroup : ∀ join members, shape ≠ .group join members) :
    (Criterion.ofJson v).lenientFilter.map (Filter.holds e) = ofShape e shape := by
  cases shape with
  | group join members => exact absurd rfl (hgroup join members)
  | leaf field condition =>
    rw [Criterion.ofJson_leaf h, Criterion.lenientFilter_leaf, Option.map_some, Filter.holds_inScopes]
    rfl
  | malformed reason =>
    rw [Criterion.ofJson_malformed h]
    rfl

theorem map_holds_filterMap {elements : List Json}
    (ih : ∀ x ∈ elements, (Criterion.ofJson x).lenientFilter.map (Filter.holds e) = reading e x) :
    ((elements.map Criterion.ofJson).filterMap Criterion.lenientFilter).map (Filter.holds e) =
      elements.filterMap (reading e) := by
  rw [List.filterMap_map, List.map_filterMap]
  exact List.filterMap_congr ih

theorem map_holds_lenientFilter (v : Json) :
    (Criterion.ofJson v).lenientFilter.map (Filter.holds e) = reading e v := by
  fun_induction reading e v with
  | case1 members elements hor ih =>
    have hshape : Shape.of (.object members) = .group .any elements := by
      simp [Shape.of, Shape.ofMembers, hor, Shape.ofGroup]
    rw [Criterion.ofJson_group hshape, Criterion.lenientFilter_group]
    simpa [← map_holds_filterMap e ih, Join.of] using map_holds_any? e _
  | case2 members value hlist hor =>
    have hshape : Shape.of (.object members) = .malformed .groupWithoutList := by
      simp [Shape.of, Shape.ofMembers, hor, Shape.ofGroup_eq_malformed _ hlist]
    rw [Criterion.ofJson_malformed hshape, Criterion.lenientFilter_malformed, Option.map_none]
  | case3 members elements hor hand ih =>
    have hshape : Shape.of (.object members) = .group .all elements := by
      simp [Shape.of, Shape.ofMembers, hor, hand, Shape.ofGroup]
    rw [Criterion.ofJson_group hshape, Criterion.lenientFilter_group]
    simpa [← map_holds_filterMap e ih, Join.of] using map_holds_all? e _
  | case4 members value hlist hor hand =>
    have hshape : Shape.of (.object members) = .malformed .groupWithoutList := by
      simp [Shape.of, Shape.ofMembers, hor, hand, Shape.ofGroup_eq_malformed _ hlist]
    rw [Criterion.ofJson_malformed hshape, Criterion.lenientFilter_malformed, Option.map_none]
  | case5 members op hor hand hop =>
    have hshape : Shape.of (.object members) = Shape.ofOperation members op := by
      simp [Shape.of, Shape.ofMembers, hor, hand, hop]
    rw [named_eq]
    exact map_holds_ofShape e hshape fun join members => Shape.ofOperation_ne_group
  | case6 members hor hand hop =>
    rw [single_eq e hor hand hop]
    exact map_holds_ofShape e rfl (Shape.ofMembers_ne_group hor hand)
  | case7 v hobject =>
    have hshape : Shape.of v = .malformed .notAnObject := by
      cases v with
      | object members => exact absurd rfl (hobject members)
      | _ => rfl
    rw [Criterion.ofJson_malformed hshape, Criterion.lenientFilter_malformed, Option.map_none]

end Element

/-- What a structured filter says of an object: all that its elements say. A value that is no list is its only
element. -/
def Criteria.reading (e : Engine Object) : Json → Object → Bool
  | .array elements, o => (elements.filterMap (Element.reading e)).all fun condition => condition o
  | v, o => (Element.reading e v).all fun condition => condition o

theorem Criteria.all_holds_lenientFilter (e : Engine Object) (v : Json) (o : Object) :
    ((lenientFilter v).all fun f => f.holds e o) =
      ((elements v).filterMap (Element.reading e)).all fun condition => condition o := by
  have hread : ((elements v).filterMap fun x => (Criterion.ofJson x).lenientFilter).map (Filter.holds e) =
      (elements v).filterMap (Element.reading e) := by
    rw [List.map_filterMap]
    exact List.filterMap_congr fun x _ => Element.map_holds_lenientFilter e x
  rw [lenientFilter_eq, ← hread, List.all_map]
  exact Filter.all_holds_all? e _ o

/-- Lenient parsing makes of every value a filter that asks for what the value says. -/
theorem lenient_filter_reads (v : Json) :
    ∃ f, Criteria.filter? .lenient v = .ok f ∧
      ∀ {Object : Type u} (e : Engine Object) (o : Object),
        (f.all fun f => f.holds e o) = Criteria.reading e v o := by
  refine ⟨Criteria.lenientFilter v, Criteria.filter?_lenient v, fun e o => ?_⟩
  have only (x : Json) : ([x].filterMap (Element.reading e)).all (fun condition => condition o) =
      (Element.reading e x).all fun condition => condition o := by
    cases h : Element.reading e x <;> simp [h]
  rw [Criteria.all_holds_lenientFilter]
  cases v with
  | array elements => rfl
  | _ => exact only _

end CatalogSearch
