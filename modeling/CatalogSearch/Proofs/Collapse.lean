import CatalogSearch.Proofs.Meaning
/-!
Groups of one child. What joins filters never makes such a group, and `simplify` removes it; neither changes
what the engine finds or what the filter asks for, whatever the children are.
-/
namespace CatalogSearch.Filter

universe u
variable {Object : Type u} (e : Engine Object) (o : Object)

theorem finds_collapse_all (children : List Filter) :
    e.finds (collapse all children).render o = children.all fun child => e.finds child.render o := by
  match children with
  | [] => rfl
  | [child] => rw [collapse, List.all_cons, List.all_nil, Bool.and_true]
  | first :: second :: rest => exact finds_all e o (first :: second :: rest)

theorem finds_collapse_any (children : List Filter) :
    e.finds (collapse any children).render o =
      (children.isEmpty || children.any fun child => e.finds child.render o) := by
  match children with
  | [] => rfl
  | [child] => rw [collapse, List.any_cons, List.any_nil, Bool.or_false, List.isEmpty_cons, Bool.false_or]
  | first :: second :: rest => exact finds_any e o (first :: second :: rest)

theorem finds_simplify (f : Filter) : e.finds f.simplify.render o = e.finds f.render o := by
  induction f generalizing o with
  | term | contains | matching | wildcard | present | nothing => rfl
  | not inner ih => rw [simplify, finds_not, finds_not, ih]
  | all children ih =>
    rw [simplify, finds_collapse_all, simplifyEach_eq_map, List.all_map, finds_all]
    exact all_congr_of_mem fun child hc => ih child hc o
  | any children ih =>
    rw [simplify, finds_collapse_any, simplifyEach_eq_map, List.isEmpty_map, List.any_map, finds_any]
    exact congrArg _ (any_congr_of_mem fun child hc => ih child hc o)
  | nested path inner ih =>
    rw [simplify, render, render, Engine.finds_nested, Engine.finds_nested]
    exact List.any_congr rfl ih

theorem holds_collapse_all (children : List Filter) :
    (collapse all children).holds e o = children.all fun child => child.holds e o := by
  match children with
  | [] => rfl
  | [child] => rw [collapse, List.all_cons, List.all_nil, Bool.and_true]
  | first :: second :: rest => exact holds_all e (first :: second :: rest) o

theorem holds_collapse_any (children : List Filter) :
    (collapse any children).holds e o = children.any fun child => child.holds e o := by
  match children with
  | [] => rfl
  | [child] => rw [collapse, List.any_cons, List.any_nil, Bool.or_false]
  | first :: second :: rest => exact holds_any e (first :: second :: rest) o

theorem holds_simplify (f : Filter) : f.simplify.holds e o = f.holds e o := by
  induction f generalizing o with
  | term | contains | matching | wildcard | present | nothing => rfl
  | not inner ih => rw [simplify, holds, holds, ih]
  | all children ih =>
    rw [simplify, holds_collapse_all, simplifyEach_eq_map, List.all_map, holds_all]
    exact all_congr_of_mem fun child hc => ih child hc o
  | any children ih =>
    rw [simplify, holds_collapse_any, simplifyEach_eq_map, List.any_map, holds_any]
    exact any_congr_of_mem fun child hc => ih child hc o
  | nested path inner ih =>
    rw [simplify, holds, holds]
    exact List.any_congr rfl ih

theorem finds_queryOf_all? (filters : List Filter) :
    e.finds (queryOf (all? filters)) o = filters.all fun f => e.finds f.render o := by
  match filters with
  | [] => rfl
  | [f] => rw [all?, List.all_cons, List.all_nil, Bool.and_true]; rfl
  | first :: second :: rest => exact finds_all e o (first :: second :: rest)

theorem finds_queryOf_simplify (f : Option Filter) :
    e.finds (queryOf (f.map simplify)) o = e.finds (queryOf f) o := by
  cases f with
  | none => rfl
  | some f => exact finds_simplify e o f

/-- Parts that are not there restrict nothing. -/
theorem finds_queryOf_combine (parts : List (Option Filter)) :
    e.finds (queryOf ((combine parts).map simplify)) o = parts.all fun part => e.finds (queryOf part) o := by
  rw [finds_queryOf_simplify, combine, finds_queryOf_all?]
  induction parts with
  | nil => rfl
  | cons part rest ih =>
    cases part with
    | none => simpa [queryOf] using ih
    | some f => simpa [queryOf] using congrArg (e.finds f.render o && ·) ih

theorem all_finds_queryOf_iff (parts : List (Option Filter)) :
    (parts.all fun part => e.finds (queryOf part) o) = true ↔
      ∀ f, some f ∈ parts → e.finds f.render o = true := by
  rw [List.all_eq_true]
  constructor
  · exact fun h f hf => h (some f) hf
  · intro h part hpart
    cases part with
    | none => rfl
    | some f => exact h f hpart

end CatalogSearch.Filter
