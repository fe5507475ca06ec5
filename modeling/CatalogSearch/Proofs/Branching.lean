import CatalogSearch.Proofs.Clauses
import CatalogSearch.Proofs.NormalForm
import CatalogSearch.Proofs.Planning
import CatalogSearch.Proofs.Unfiltered
/-!
Filters that are made from a request are well-formed (`WellFormed`). The main statement is `compiled_branches`:
whatever is parsed, interpreted or compiled, each group in the filter has two children or more, so nothing is left
for `simplify` to do.
-/
namespace CatalogSearch

namespace Join
variable (join : Join)

theorem of_nil : join.of [] = none := by
  cases join <;> rfl

theorem of_singleton (f : Filter) : join.of [f] = some f := by
  cases join <;> rfl

theorem of_cons_cons (first second : Filter) (rest : List Filter) :
    join.of (first :: second :: rest) = some (join.group (first :: second :: rest)) := by
  cases join <;> rfl

end Join

namespace Filter

/-- Filters as requests make them: a group has two children or more, and no segment in the path of a nested scope
is empty. -/
inductive WellFormed : Filter → Prop where
  | leaf {f : Filter} (h : f.isLeaf = true) : WellFormed f
  | not {inner : Filter} (h : WellFormed inner) : WellFormed (.not inner)
  | group (join : Join) {children : List Filter} (hlength : 2 ≤ children.length)
    (h : ∀ child ∈ children, WellFormed child) : WellFormed (join.group children)
  | nested {path : String} {inner : Filter} (hpath : Field.isPath path = true) (h : WellFormed inner) :
    WellFormed (.nested path inner)

abbrev Branches (f : Filter) : Prop := f.EveryGroup (2 ≤ ·)

theorem WellFormed.branches {f : Filter} (h : f.WellFormed) : f.Branches := by
  induction h with
  | leaf h => exact everyGroup_leaf h
  | not _ ih => exact everyGroup_not.2 ih
  | group join hlength _ ih => exact everyGroup_group.2 ⟨hlength, ih⟩
  | nested _ _ ih => exact everyGroup_nested.2 ih

theorem WellFormed.simplify_eq {f : Filter} (h : f.WellFormed) : f.simplify = f :=
  simplify_eq_self (h.branches.mono fun n hn => by omega)

theorem wellFormed_of_join (join : Join) {filters : List Filter} (h : ∀ f ∈ filters, f.WellFormed) :
    ∀ f ∈ join.of filters, f.WellFormed := by
  intro f hf
  match filters with
  | [] =>
    rw [Join.of_nil] at hf
    cases hf
  | [single] =>
    rw [Join.of_singleton] at hf
    cases hf
    exact h f List.mem_cons_self
  | first :: second :: rest =>
    rw [Join.of_cons_cons] at hf
    cases hf
    exact .group join (by simp) h

theorem of_terms (field : String) (first : Json) (rest : List Json) :
    Join.any.of ((first :: rest).map (term field)) = some (oneOf field (first :: rest)) := by
  cases rest <;> rfl

theorem wellFormed_oneOf (field : String) (values : List Json) : (oneOf field values).WellFormed := by
  cases values with
  | nil => exact .leaf rfl
  | cons first rest =>
    refine wellFormed_of_join .any (fun f hf => ?_) _ (of_terms field first rest)
    obtain ⟨value, -, rfl⟩ := List.mem_map.1 hf
    exact .leaf rfl

theorem wellFormed_inScopes {field : String} {inner : Filter} (hfield : Field.isPath field = true)
    (h : inner.WellFormed) : (inScopes field inner).WellFormed := by
  have hpaths : ∀ path ∈ Field.enclosing field, Field.isPath path = true :=
    fun path => Field.isPath_of_mem_enclosing hfield
  rw [inScopes, Field.scopes_eq_enclosing]
  generalize Field.enclosing field = paths at hpaths
  induction paths with
  | nil => exact h
  | cons path rest ih =>
    obtain ⟨hpath, hrest⟩ := List.forall_mem_cons.1 hpaths
    exact .nested hpath (ih hrest)

theorem wellFormed_filterMap {α : Type} {make : α → Option Filter} {xs : List α}
    (h : ∀ x ∈ xs, ∀ f ∈ make x, f.WellFormed) : ∀ f ∈ xs.filterMap make, f.WellFormed := by
  intro f hf
  obtain ⟨x, hx, hmake⟩ := List.mem_filterMap.1 hf
  exact h x hx f hmake

theorem wellFormed_combine {parts : List (Option Filter)} (h : ∀ part ∈ parts, ∀ f ∈ part, f.WellFormed) :
    ∀ f ∈ combine parts, f.WellFormed :=
  wellFormed_of_join .all (wellFormed_filterMap h)

end Filter

theorem Condition.wellFormed_onField (field : String) (condition : Condition) :
    (condition.onField field).WellFormed := by
  cases condition with
  | equals value =>
    rw [onField]
    split
    · exact .not (.leaf rfl)
    · exact .leaf rfl
  | differs value =>
    rw [onField]
    split
    · exact .leaf rfl
    · exact .not (.leaf rfl)
  | contains value => exact .leaf rfl
  | oneOf values => exact Filter.wellFormed_oneOf field values

theorem Element.wellFormed_lenientFilter (v : Json) : ∀ f ∈ lenientFilter v, f.WellFormed := by
  induction v using Shape.induction with
  | group v join members h ih =>
    rw [lenientFilter_group h]
    exact Filter.wellFormed_of_join join (Filter.wellFormed_filterMap ih)
  | leaf v field condition h =>
    intro f hf
    rw [lenientFilter_leaf h] at hf
    cases hf
    exact Filter.wellFormed_inScopes (Shape.isPath_of_leaf h) (condition.wellFormed_onField field)
  | malformed v reason h =>
    intro f hf
    rw [lenientFilter_malformed h] at hf
    cases hf

theorem Criteria.wellFormed_of_filter? {policy : Policy} {v : Json} {f : Option Filter}
    (h : filter? policy v = .ok f) : ∀ g ∈ f, g.WellFormed := by
  rw [eq_lenientFilter_of_filter? h, lenientFilter_eq]
  exact Filter.wellFormed_of_join .all (Filter.wellFormed_filterMap fun x _ => Element.wellFormed_lenientFilter x)

namespace Clause

theorem wellFormed_of_mem_ofTokens {fields tokens : List String} :
    ∀ clause ∈ ofTokens fields tokens, clause.WellFormed := by
  refine forall_mem_collect ?single ?join nofun tokens
  case single =>
    intro role clause h
    cases role with
    | negated text =>
      cases h
      exact .not (.leaf rfl)
    | pattern text | plain text =>
      cases h
      exact .leaf rfl
    | _ => cases h
  case join =>
    intro clause operand h
    refine Filter.WellFormed.group .any (by simp) fun child hchild => ?_
    simp only [List.mem_cons, List.not_mem_nil, or_false] at hchild
    rcases hchild with rfl | rfl
    · exact h
    · exact .leaf rfl

theorem wellFormed_interpret (fields tokens : List String) : ∀ f ∈ interpret fields tokens, f.WellFormed := by
  rw [interpret_eq]
  exact Filter.wellFormed_of_join .all wellFormed_of_mem_ofTokens

end Clause

namespace Selection
variable {s : Selection} {fields : List String}

theorem compile_eq_ok_iff {f : Option Filter} :
    s.compile fields = .ok f ↔ ∃ structured, s.criteriaFilter = .ok structured ∧
      f = (Filter.combine [s.textFilter fields, structured]).map Filter.simplify := by
  rw [compile, Except.bind_eq_ok_iff]
  refine exists_congr fun structured => and_congr_right fun _ => ?_
  exact ⟨fun h => (Except.ok.inj h).symm, fun h => congrArg Except.ok h.symm⟩

theorem wellFormed_textFilter : ∀ f ∈ s.textFilter fields, f.WellFormed := by
  intro f hf
  obtain ⟨text, -, hinterpret⟩ := Option.bind_eq_some_iff.1 hf
  exact Clause.wellFormed_interpret fields _ f hinterpret

theorem wellFormed_criteriaFilter {structured : Option Filter} (h : s.criteriaFilter = .ok structured) :
    ∀ f ∈ structured, f.WellFormed := by
  rw [criteriaFilter] at h
  cases hcriteria : s.criteria with
  | none =>
    rw [hcriteria] at h
    intro f hf
    cases h
    cases hf
  | some v =>
    rw [hcriteria] at h
    exact Criteria.wellFormed_of_filter? h

theorem wellFormed_of_compile {f : Option Filter} (h : s.compile fields = .ok f) : ∀ g ∈ f, g.WellFormed := by
  obtain ⟨structured, hstructured, rfl⟩ := compile_eq_ok_iff.1 h
  have hparts : ∀ f ∈ Filter.combine [s.textFilter fields, structured], f.WellFormed := by
    refine Filter.wellFormed_combine fun part hpart => ?_
    simp only [List.mem_cons, List.not_mem_nil, or_false] at hpart
    rcases hpart with rfl | rfl
    · exact wellFormed_textFilter
    · exact wellFormed_criteriaFilter hstructured
  intro g hg
  obtain ⟨f, hf, rfl⟩ := Option.map_eq_some_iff.1 hg
  rw [(hparts f hf).simplify_eq]
  exact hparts f hf

end Selection

/-- Every filter that is made of a request has groups of two children or more only, and is in normal form. -/
theorem compiled_branches (policy : Policy) (v : Json) (fields tokens : List String) (s : Selection) :
    (∀ f, Criteria.filter? policy v = .ok (some f) → f.Branches ∧ f.simplify = f) ∧
      (∀ f, Clause.interpret fields tokens = some f → f.Branches ∧ f.simplify = f) ∧
      ∀ f, s.compile fields = .ok (some f) → f.Branches ∧ f.simplify = f := by
  have hnormal {f : Filter} (h : f.WellFormed) : f.Branches ∧ f.simplify = f := ⟨h.branches, h.simplify_eq⟩
  refine ⟨fun f hf => hnormal ?_, fun f hf => hnormal ?_, fun f hf => hnormal ?_⟩
  · exact Criteria.wellFormed_of_filter? hf f rfl
  · exact Clause.wellFormed_interpret fields tokens f hf
  · exact Selection.wellFormed_of_compile hf f rfl

end CatalogSearch
