import CatalogSearch.Proofs.Operations
import CatalogSearch.Proofs.Scopes
/-!
Comparisons with null. Null is no value that a field could have, so `eq` and `ne` ask instead whether there is a
value. The main statement is `comparesWithNull_iff`: a filter that is parsed, and its query, compares a field with
null just where an element has `any` with null, or `in_` with null among the values.
-/
namespace CatalogSearch

namespace Query

mutual

def parts : Json → List Json
  | .object [("bool", .object [(list, .array clauses)])] =>
    .object [("bool", .object [(list, .array clauses)])] :: partsEach clauses
  | .object [("nested", .object [("path", path), ("query", query)])] =>
    .object [("nested", .object [("path", path), ("query", query)])] :: parts query
  | query => [query]

def partsEach : List Json → List Json
  | [] => []
  | query :: rest => parts query ++ partsEach rest

end

theorem partsEach_eq_flatMap (queries : List Json) : partsEach queries = queries.flatMap parts := by
  induction queries with
  | nil => rfl
  | cons query rest ih => rw [partsEach, ih, List.flatMap_cons]

def isNullTerm : Json → Bool
  | .object [("term", .object [(_, .object [("value", value)])])] => value.isNull
  | _ => false

def comparesWithNull (query : Json) : Bool := (parts query).any isNullTerm

theorem comparesWithNull_bool (list : String) (clauses : List Json) :
    comparesWithNull (single "bool" (single list (.array clauses))) = clauses.any comparesWithNull := by
  have hparts : parts (single "bool" (single list (.array clauses))) =
      single "bool" (single list (.array clauses)) :: clauses.flatMap parts := by
    rw [← partsEach_eq_flatMap]
    rfl
  rw [comparesWithNull, hparts, List.any_cons, List.any_flatMap]
  rfl

theorem comparesWithNull_nested (path : String) (query : Json) :
    comparesWithNull (nested path query) = comparesWithNull query := rfl

end Query

namespace Filter

def isNullTerm : Filter → Bool
  | .term _ value => value.isNull
  | .contains _ value => value.isNull
  | _ => false

def comparesWithNull (f : Filter) : Bool := f.nodes.any isNullTerm

theorem comparesWithNull_group (join : Join) (children : List Filter) :
    (join.group children).comparesWithNull = children.any comparesWithNull := by
  have hgroup : (join.group children).isNullTerm = false := by cases join <;> rfl
  rw [comparesWithNull, nodes_group, List.any_cons, hgroup, Bool.false_or, List.any_flatMap]
  rfl

theorem render_group (join : Join) (children : List Filter) :
    ∃ list, (join.group children).render =
      Query.single "bool" (Query.single list (.array (children.map render))) := by
  rw [← renderEach_eq_map]
  cases join <;> exact ⟨_, rfl⟩

theorem comparesWithNull_render (f : Filter) : Query.comparesWithNull f.render = f.comparesWithNull := by
  induction f using group_induction with
  | leaf f h =>
    cases f with
    | wildcard pattern fields =>
      rw [render, Query.should, Query.comparesWithNull_bool, List.any_map]
      exact List.any_eq_false.2 fun field _ => Bool.false_ne_true
    | term | contains | matching | present | nothing => rfl
    | _ => cases h
  | not inner ih =>
    rw [render, Query.mustNot, Query.comparesWithNull_bool, List.any_cons, List.any_nil, Bool.or_false]
    exact ih
  | group join children ih =>
    obtain ⟨list, hrender⟩ := render_group join children
    rw [hrender, Query.comparesWithNull_bool, List.any_map, comparesWithNull_group]
    exact any_congr_of_mem ih
  | nested path inner ih =>
    rw [render, Query.comparesWithNull_nested]
    exact ih

theorem comparesWithNull_eq_leaves (f : Filter) :
    f.comparesWithNull = f.leaves.any fun p => p.leaf.isNullTerm := by
  induction f using group_induction with
  | leaf f h => cases f <;> first | rfl | cases h
  | not inner ih => exact ih
  | group join children ih =>
    rw [comparesWithNull_group, leaves_group, List.any_flatMap]
    exact any_congr_of_mem ih
  | nested path inner ih =>
    rw [leaves, List.any_map]
    exact ih

end Filter

/-- An element that has null for a value which is to be in a field. -/
inductive Element.TakesNull : Json → Prop where
  | contains {v : Json} {field : String} (hpath : Field.isPath field = true) (h : Asks "any" field .null v) :
    TakesNull v
  | oneOf {v : Json} {field : String} {values : List Json} (hpath : Field.isPath field = true)
    (h : Asks "in_" field (.array values) v) (hnull : .null ∈ values) : TakesNull v

namespace Condition

def TakesNull : Condition → Prop
  | .contains value => value = .null
  | .oneOf values => .null ∈ values
  | _ => False

theorem isNull_iff {value : Json} : value.isNull = true ↔ value = .null := by
  cases value <;> simp [Json.isNull]

theorem any_isNullTerm_comparison (field : String) (value : Json) :
    [Element.comparison field value].any Filter.isNullTerm = false := by
  cases value <;> rfl

/-- Null is compared with as a value in two kinds of condition only; the others ask whether there is a value. -/
theorem any_isNullTerm_asked_iff (field : String) (condition : Condition) :
    (condition.asked field).any Filter.isNullTerm = true ↔ condition.TakesNull := by
  cases condition with
  | equals value | differs value =>
    rw [asked, any_isNullTerm_comparison]
    exact iff_of_false Bool.false_ne_true id
  | contains value =>
    rw [asked, List.any_cons, List.any_nil, Bool.or_false]
    exact isNull_iff
  | oneOf values =>
    have hchoices : (Element.choices field values).any Filter.isNullTerm = values.any Json.isNull := by
      cases values with
      | nil => rfl
      | cons first rest =>
        rw [Element.choices, List.any_map]
        rfl
    rw [asked, hchoices, List.any_eq_true, TakesNull]
    simp only [isNull_iff, exists_eq_right]

end Condition

namespace Element

theorem takesNull_iff {v : Json} :
    TakesNull v ↔ ∃ field condition, Shape.of v = .leaf field condition ∧ condition.TakesNull := by
  constructor
  · rintro (⟨hpath, h⟩ | ⟨hpath, h, hnull⟩)
    · exact ⟨_, .contains .null, h.of_eq_leaf hpath rfl, rfl⟩
    · exact ⟨_, .oneOf _, h.of_eq_leaf hpath rfl, hnull⟩
  · rintro ⟨field, condition, hshape, hnull⟩
    obtain ⟨hpath, ⟨op, value, hasks, hcondition⟩ | ⟨value, -, -, rfl⟩⟩ := Shape.of_eq_leaf_iff.1 hshape
    · obtain ⟨-, rfl⟩ | ⟨-, rfl⟩ | ⟨hany, rfl⟩ | ⟨hin, values, rfl, rfl⟩ := Shape.bind_operation?_iff.1 hcondition
      · cases hnull
      · cases hnull
      · cases hany
        cases hnull
        exact .contains hpath hasks
      · cases hin
        exact .oneOf hpath hasks hnull
    · cases hnull

theorem any_isNullTerm_ownLeaves_iff {v : Json} :
    ((ownLeaves v).any fun p => p.leaf.isNullTerm) = true ↔ TakesNull v := by
  have hleaf {field : String} {condition : Condition} (h : Shape.of v = .leaf field condition) :
      ((ownLeaves v).any fun p => p.leaf.isNullTerm) = true ↔ condition.TakesNull := by
    rw [ownLeaves_leaf h, List.any_map]
    exact condition.any_isNullTerm_asked_iff field
  rw [takesNull_iff]
  constructor
  · intro hany
    have hown : ownLeaves v ≠ [] := by
      rintro hnil
      rw [hnil] at hany
      cases hany
    obtain ⟨field, condition, hshape⟩ := asksField_iff.1 (ownLeaves_ne_nil_iff.1 hown)
    exact ⟨field, condition, hshape, (hleaf hshape).1 hany⟩
  · rintro ⟨field, condition, hshape, hnull⟩
    exact (hleaf hshape).2 hnull

end Element

namespace Criteria

/-- Whatever is parsed compares a field with null just where an element that it comes to takes null for a value to
be in a field. So does its query. -/
theorem comparesWithNull_iff {policy : Policy} {v : Json} {f : Option Filter} (h : filter? policy v = .ok f) :
    (f.any Filter.comparesWithNull = true ↔ ∃ x ∈ (elements v).flatMap Element.ends, Element.TakesNull x) ∧
      (f.any fun g => Query.comparesWithNull g.render) = f.any Filter.comparesWithNull := by
  -- The elements at the ends have the leaves of the filter between them.
  have hleaves : f.any Filter.comparesWithNull =
      (f.toList.flatMap Filter.leaves).any fun p => p.leaf.isNullTerm := by
    cases f with
    | none => rfl
    | some g =>
      rw [Option.any_some, Option.toList_some, List.flatMap_singleton]
      exact g.comparesWithNull_eq_leaves
  constructor
  · rw [hleaves, leaves_of_filter? h, List.any_flatMap, List.any_eq_true]
    exact exists_congr fun x => and_congr_right fun _ => Element.any_isNullTerm_ownLeaves_iff
  · simp only [Filter.comparesWithNull_render]

def labelOrNull : Json := Element.asking "in_" "sites.label" (.array [.string "a", .null])

def unlabelled : Json := .object [("or", .array [Element.asking "eq" "label" .null, labelOrNull])]

theorem comparesWithNull_iff_unlabelled :
    ∃ f, filter? .lenient unlabelled = .ok f ∧ (f.any fun g => Query.comparesWithNull g.render) = true := by
  have hpath : Field.isPath "sites.label" = true := by decide +kernel
  have hasks := Element.asks_asking "in_" "sites.label" (.array [.string "a", .null])
  have hgroup : Shape.of unlabelled = .group .any [Element.asking "eq" "label" .null, labelOrNull] := rfl
  have hends : Element.ends labelOrNull = [labelOrNull] :=
    Element.ends_of_ne_group fun _ _ h => by cases (hasks.of_eq_leaf hpath rfl).symm.trans h
  have hmem : labelOrNull ∈ (elements unlabelled).flatMap Element.ends := by
    rw [show elements unlabelled = [unlabelled] from rfl, List.flatMap_singleton, Element.ends_group hgroup]
    exact List.mem_flatMap.2 ⟨labelOrNull, by simp, hends ▸ List.mem_singleton_self _⟩
  obtain ⟨hiff, hquery⟩ := comparesWithNull_iff (filter?_lenient unlabelled)
  exact ⟨_, filter?_lenient unlabelled, hquery.trans (hiff.2 ⟨_, hmem, .oneOf hpath hasks (by simp)⟩)⟩

/-- Null for a value in a field is compared with, where `eq` would ask whether there is a value. -/
theorem compares_with_null :
    filter? .strict (Element.asking "in_" "label" (.array [.null])) = .ok (some (.term "label" .null)) ∧
      filter? .strict (Element.asking "any" "label" .null) = .ok (some (.contains "label" .null)) ∧
      filter? .strict (Element.asking "eq" "label" .null) = .ok (some (.not (.present "label"))) ∧
      Query.comparesWithNull (Filter.term "label" .null).render = true ∧
      Query.comparesWithNull (Filter.contains "label" .null).render = true := by
  have hpath : Field.isPath "label" = true := by decide +kernel
  have hplain (inner : Filter) : Filter.inScopes "label" inner = inner := by
    rw [Filter.inScopes, show Field.scopes "label" = [] by decide +kernel]
    rfl
  have hparsed {op : String} {value : Json} (condition : Condition)
      (hcondition : ((Shape.operation? (.string op)).bind fun takes => takes value) = some condition) :
      filter? .strict (Element.asking op "label" value) = .ok (some (condition.onField "label")) := by
    rw [filter?_of_leaf ((Element.asks_asking op "label" value).of_eq_leaf hpath hcondition) .strict, hplain]
  exact ⟨hparsed (.oneOf [.null]) rfl, hparsed (.contains .null) rfl, hparsed (.equals .null) rfl, rfl, rfl⟩

end Criteria
end CatalogSearch
