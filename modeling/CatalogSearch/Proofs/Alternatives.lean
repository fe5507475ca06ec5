import CatalogSearch.Proofs.Branching
import CatalogSearch.Proofs.Operations
/-!
One value out of several, and the group of alternatives that has an equality for each. The main statement is
`choice_as_alternatives`: wherever an element may stand, one of the two may stand for the other. What is found is
the same, and the filter itself where the field is in no scope or there is but one value.
-/
namespace CatalogSearch

universe u
variable {Object : Type u}

namespace Element

/-- A place for an element: the element itself, or a place in a member of a group, with the other members before
and after it. -/
inductive Place where
  | here
  | member (fields : List (String × Json)) (join : Join) (before : List Json) (place : Place) (after : List Json)

def Place.fill : Place → Json → Json
  | .here, x => x
  | .member fields join before place after, x =>
    .object (Table.insert fields join.member (.array (before ++ place.fill x :: after)))

/-- Whatever an element comes to through groups is in a place of it. -/
theorem exists_fill_of_reaches {v x : Json} (h : Reaches v x) : ∃ place : Place, place.fill x = v := by
  induction h using Relation.ReflTransGen.head_induction_on with
  | refl => exact ⟨.here, rfl⟩
  | head hmember _ ih =>
    obtain ⟨join, members, hshape, hmem⟩ := hasMember_iff.1 hmember
    obtain ⟨fields, rfl, hfind, -⟩ := Shape.of_eq_group_iff.1 hshape
    obtain ⟨before, after, rfl⟩ := List.append_of_mem hmem
    obtain ⟨place, rfl⟩ := ih
    exact ⟨.member fields join before place after, by rw [Place.fill, Table.insert_of_find? hfind]⟩

theorem lenientFilter_eq_of_shape {v w : Json} (h : Shape.of v = Shape.of w) :
    lenientFilter v = lenientFilter w := by
  cases hw : Shape.of w with
  | group join members => rw [lenientFilter_group (h.trans hw), lenientFilter_group hw]
  | leaf field condition => rw [lenientFilter_leaf (h.trans hw), lenientFilter_leaf hw]
  | malformed reason => rw [lenientFilter_malformed (h.trans hw), lenientFilter_malformed hw]

/-- An element with a list in it is the group of that list, or else has `or` besides and is what it is without. -/
theorem of_insert_member (fields : List (String × Json)) (join : Join) :
    (∀ members, Shape.of (.object (Table.insert fields join.member (.array members))) = .group join members) ∨
      ∀ list, Shape.of (.object (Table.insert fields join.member list)) = Shape.of (.object fields) := by
  have hmember (list : Json) : Table.find? (Table.insert fields join.member list) join.member = some list := by
    rw [Table.find?_insert, if_pos rfl]
  cases join with
  | any => exact .inl fun members => Shape.of_eq_group_iff.2 ⟨_, rfl, hmember _, nofun⟩
  | all =>
    have hor (list : Json) :
        Table.find? (Table.insert fields Join.all.member list) "or" = Table.find? fields "or" := by
      rw [Table.find?_insert, if_neg (by decide)]
    cases hfields : Table.find? fields "or" with
    | none =>
      refine .inl fun members => Shape.of_eq_group_iff.2 ⟨_, rfl, hmember _, fun _ => ?_⟩
      exact (hor _).trans hfields
    | some value =>
      refine .inr fun list => ?_
      simp only [Shape.of, Shape.ofMembers, (hor list).trans hfields, hfields]

section Replacing
variable {β : Type u} {read : Filter → β} {combine : Join → List β → Option β}

theorem map_of_members (hcombine : ∀ join filters, (join.of filters).map read = combine join (filters.map read))
    {v w : Json} (h : (lenientFilter v).map read = (lenientFilter w).map read) (join : Join)
    (before after : List Json) :
    (join.of ((before ++ v :: after).filterMap lenientFilter)).map read =
      (join.of ((before ++ w :: after).filterMap lenientFilter)).map read := by
  rw [hcombine, hcombine, List.map_filterMap, List.map_filterMap]
  simp only [List.filterMap_append, List.filterMap_cons, h]

theorem map_lenientFilter_fill
    (hcombine : ∀ join filters, (join.of filters).map read = combine join (filters.map read))
    {x y : Json} (h : (lenientFilter x).map read = (lenientFilter y).map read) (place : Place) :
    (lenientFilter (place.fill x)).map read = (lenientFilter (place.fill y)).map read := by
  induction place with
  | here => exact h
  | member fields join before place after ih =>
    rw [Place.fill, Place.fill]
    rcases of_insert_member fields join with hgroup | hother
    · rw [lenientFilter_group (hgroup _), lenientFilter_group (hgroup _)]
      exact map_of_members hcombine ih join before after
    · -- The list is under `and` and there is `or` besides: the element is read without the list.
      rw [lenientFilter_eq_of_shape (hother _), lenientFilter_eq_of_shape (hother _)]

end Replacing

def together : Join → List (Object → Bool) → Option (Object → Bool)
  | .all => allOf
  | .any => someOf

theorem map_holds_of (e : Engine Object) (join : Join) (filters : List Filter) :
    (join.of filters).map (Filter.holds e) = together join (filters.map (Filter.holds e)) := by
  cases join with
  | all => exact map_holds_all? e filters
  | any => exact map_holds_any? e filters

/-- A group of alternatives, whatever it has besides. -/
inductive Alternatives (members : List Json) : Json → Prop where
  | intro {fields : List (String × Json)} (hor : Table.find? fields "or" = some (.array members)) :
    Alternatives members (.object fields)

theorem Alternatives.of_eq_group {members : List Json} {v : Json} (h : Alternatives members v) :
    Shape.of v = .group .any members := by
  obtain ⟨hor⟩ := h
  exact Shape.of_eq_group_iff.2 ⟨_, rfl, hor, nofun⟩

section Choice
variable {field : String} {values members : List Json} {x y : Json}

theorem lenientFilter_choice (hpath : Field.isPath field = true) (hx : Asks "in_" field (.array values) x) :
    lenientFilter x = some (.inScopes field (.oneOf field values)) :=
  lenientFilter_leaf (hx.of_eq_leaf hpath rfl)

theorem lenientFilter_equality {value : Json} (hpath : Field.isPath field = true) (hnull : value ≠ .null)
    (hx : Asks "eq" field value x) : lenientFilter x = some (.inScopes field (.term field value)) := by
  have hterm : (Condition.equals value).onField field = .term field value := by
    cases value with
    | null => exact absurd rfl hnull
    | _ => rfl
  rw [lenientFilter_leaf (hx.of_eq_leaf hpath rfl), hterm]

theorem filterMap_lenientFilter_equalities (hpath : Field.isPath field = true) (hnull : .null ∉ values)
    (hmembers : List.Forall₂ (Asks "eq" field) values members) :
    members.filterMap lenientFilter = values.map fun value => .inScopes field (.term field value) := by
  induction hmembers with
  | nil => rfl
  | cons hfirst _ ih =>
    rw [List.mem_cons, not_or] at hnull
    rw [List.filterMap_cons_some (lenientFilter_equality hpath (Ne.symm hnull.1) hfirst), ih hnull.2, List.map_cons]

theorem lenientFilter_alternatives (hpath : Field.isPath field = true) (hnull : .null ∉ values)
    (hmembers : List.Forall₂ (Asks "eq" field) values members) (hy : Alternatives members y) :
    lenientFilter y = Join.any.of (values.map fun value => .inScopes field (.term field value)) := by
  rw [lenientFilter_group hy.of_eq_group, filterMap_lenientFilter_equalities hpath hnull hmembers]

theorem someOf_eq {conditions : List (Object → Bool)} (h : conditions ≠ []) :
    someOf conditions = some fun o => conditions.any fun condition => condition o := by
  cases conditions with
  | nil => exact absurd rfl h
  | cons first rest => rfl

/-- A scope around the choice, or a scope around each of the values: some object that is reached has some value. -/
theorem map_holds_choice (e : Engine Object) (hvalues : values ≠ []) :
    (some (Filter.inScopes field (.oneOf field values))).map (Filter.holds e) =
      (Join.any.of (values.map fun value => .inScopes field (.term field value))).map (Filter.holds e) := by
  rw [Join.of, map_holds_any?, someOf_eq (by simpa using hvalues), Option.map_some]
  refine congrArg some (funext fun o => ?_)
  have hchoice : (Filter.inScopes field (.oneOf field values)).holds e o =
      (e.reached (Field.enclosing field) o).any fun part => values.any fun value =>
        e.passes (.term field value) part := by
    rw [Filter.holds_inScopes, holds_oneOf, Engine.within_eq_any]
  have heach (value : Json) : (Filter.inScopes field (.term field value)).holds e o =
      (e.reached (Field.enclosing field) o).any (e.passes (.term field value)) := by
    rw [Filter.holds_inScopes, Engine.within_eq_any]
    rfl
  simp only [hchoice, List.map_map, List.any_map, Function.comp_def, heach]
  rw [Bool.eq_iff_iff]
  simp only [List.any_eq_true]
  constructor
  · rintro ⟨part, hpart, value, hvalue, hpasses⟩
    exact ⟨value, hvalue, part, hpart, hpasses⟩
  · rintro ⟨value, hvalue, part, hpart, hpasses⟩
    exact ⟨part, hpart, value, hvalue, hpasses⟩

theorem of_equalities (hvalues : values ≠ []) (h : '.' ∉ field.toList ∨ values.length = 1) :
    Join.any.of (values.map fun value => Filter.inScopes field (.term field value)) =
      some (.inScopes field (.oneOf field values)) := by
  obtain ⟨first, rest, rfl⟩ := List.exists_cons_of_ne_nil hvalues
  rcases h with hplain | hlength
  · have hscopes (inner : Filter) : Filter.inScopes field inner = inner := by
      rw [Filter.inScopes, Field.scopes_eq_enclosing, Field.enclosing_eq_nil hplain, List.foldr_nil]
    simp only [hscopes]
    exact Filter.of_terms field first rest
  · rw [List.length_cons, Nat.add_eq_right, List.length_eq_zero_iff] at hlength
    rw [hlength]
    rfl

end Choice
end Element

namespace Criteria

inductive Place where
  | only (place : Element.Place)
  | listed (before : List Json) (place : Element.Place) (after : List Json)

def Place.fill : Place → Json → Json
  | .only place, x => place.fill x
  | .listed before place after, x => .array (before ++ place.fill x :: after)

theorem elements_fill_only {fields : List (String × Json)} (place : Element.Place) :
    elements (place.fill (.object fields)) = [place.fill (.object fields)] := by
  cases place <;> rfl

theorem map_lenientFilter_fill {β : Type u} {read : Filter → β} {combine : Join → List β → Option β}
    (hcombine : ∀ join filters, (join.of filters).map read = combine join (filters.map read))
    {xs ys : List (String × Json)}
    (h : (Element.lenientFilter (.object xs)).map read = (Element.lenientFilter (.object ys)).map read)
    (place : Place) :
    (lenientFilter (place.fill (.object xs))).map read = (lenientFilter (place.fill (.object ys))).map read := by
  rw [lenientFilter_eq, lenientFilter_eq]
  cases place with
  | only place =>
    rw [Place.fill, Place.fill, elements_fill_only, elements_fill_only]
    exact Element.map_of_members hcombine (Element.map_lenientFilter_fill hcombine h place) .all [] []
  | listed before place after =>
    exact Element.map_of_members hcombine (Element.map_lenientFilter_fill hcombine h place) .all before after

/-- Wherever an element may stand, a choice of values and the alternatives with an equality for each of the values
may stand for each other: what is found is the same. The filter is the same, too, if the field is in no scope or
there is but one value. -/
theorem choice_as_alternatives {field : String} {values members : List Json} {x y : Json}
    (hpath : Field.isPath field = true) (hvalues : values ≠ []) (hnull : .null ∉ values)
    (hx : Element.Asks "in_" field (.array values) x)
    (hmembers : List.Forall₂ (Element.Asks "eq" field) values members) (hy : Element.Alternatives members y)
    (place : Place) :
    ∃ f g, filter? .lenient (place.fill x) = .ok f ∧ filter? .lenient (place.fill y) = .ok g ∧
      (∀ {Object : Type u} (e : Engine Object) (o : Object),
        (f.all fun f => f.holds e o) = g.all fun g => g.holds e o) ∧
      ('.' ∉ field.toList ∨ values.length = 1 → f = g) := by
  have hchoice := Element.lenientFilter_choice hpath hx
  have halternatives := Element.lenientFilter_alternatives hpath hnull hmembers hy
  obtain ⟨xs, rfl⟩ : ∃ xs, x = .object xs := by
    obtain ⟨⟩ := hx
    exact ⟨_, rfl⟩
  obtain ⟨ys, rfl⟩ : ∃ ys, y = .object ys := by
    obtain ⟨⟩ := hy
    exact ⟨_, rfl⟩
  refine ⟨_, _, filter?_lenient _, filter?_lenient _, fun e o => ?_, fun hsame => ?_⟩
  · have hmeaning : (Element.lenientFilter (.object xs)).map (Filter.holds e) =
        (Element.lenientFilter (.object ys)).map (Filter.holds e) := by
      rw [hchoice, halternatives]
      exact Element.map_holds_choice e hvalues
    have hread (f : Option Filter) :
        (f.all fun f => f.holds e o) = (f.map (Filter.holds e)).all fun condition => condition o := by
      cases f <;> rfl
    rw [hread, hread, map_lenientFilter_fill (Element.map_holds_of e) hmeaning place]
  · have hequal : Element.lenientFilter (.object xs) = Element.lenientFilter (.object ys) := by
      rw [hchoice, halternatives, Element.of_equalities hvalues hsame]
    have hjoin (join : Join) (filters : List Filter) : (join.of filters).map id = join.of (filters.map id) := by
      simp
    simpa using map_lenientFilter_fill hjoin (congrArg (Option.map id) hequal) place

def labels : List Json := [.string "a", .string "b"]

def amongAlternatives : Place :=
  .listed [.null] (.member [("note", .null)] .any [Element.asking "ne" "id" .null] .here [.null]) []

def oneLabel : Json := Element.asking "in_" "sites.label" (.array labels)

def labelEqualities : Json := .object [("or", .array (labels.map (Element.asking "eq" "sites.label")))]

theorem choice_as_alternatives_labels :
    ∃ f g, filter? .lenient (amongAlternatives.fill oneLabel) = .ok f ∧
      filter? .lenient (amongAlternatives.fill labelEqualities) = .ok g ∧
      ∀ o : Document, (f.all fun f => f.holds Engine.literal o) = g.all fun g => g.holds Engine.literal o := by
  have hchoice : Element.Asks "in_" "sites.label" (.array labels) oneLabel := Element.asks_asking _ _ _
  have hmembers : List.Forall₂ (Element.Asks "eq" "sites.label") labels
      (labels.map (Element.asking "eq" "sites.label")) :=
    List.forall₂_map_right_iff.2 (List.forall₂_same.2 fun value _ => Element.asks_asking "eq" "sites.label" value)
  have hgroup : Element.Alternatives (labels.map (Element.asking "eq" "sites.label")) labelEqualities := .intro rfl
  obtain ⟨f, g, hf, hg, hsame, -⟩ := choice_as_alternatives (by decide +kernel) (by simp [labels])
    (by simp [labels]) hchoice hmembers hgroup amongAlternatives
  exact ⟨f, g, hf, hg, fun o => hsame Engine.literal o⟩

end Criteria
end CatalogSearch
