import CatalogSearch.Catalog
/-!
What a plan is made of. A search route and a plan each have one theorem that says when they come about and from
which parts; what is proved of plans elsewhere goes by these.
-/
namespace CatalogSearch

theorem Except.bind_eq_ok_iff {ε α β : Type} {x : Except ε α} {f : α → Except ε β} {b : β} :
    (x >>= f) = .ok b ↔ ∃ a, x = .ok a ∧ f a = .ok b := by
  cases x <;> simp [bind, Except.bind]

theorem Except.bind_eq_error_iff {ε α β : Type} {x : Except ε α} {f : α → Except ε β} {e : ε} :
    (x >>= f) = .error e ↔ x = .error e ∨ ∃ a, x = .ok a ∧ f a = .error e := by
  cases x <;> simp [bind, Except.bind]

namespace EntityRegistry
variable {r : EntityRegistry} {resource : String} {entity : Entity} {index : String}

theorem resolve?_eq_some_iff :
    r.resolve? resource = some (entity, index) ↔ r.get? resource = some entity ∧ entity.index = some index := by
  rw [resolve?]
  constructor
  · intro h
    obtain ⟨found, hfound, h⟩ := Option.bind_eq_some_iff.1 h
    obtain ⟨name, hname, h⟩ := Option.bind_eq_some_iff.1 h
    cases h
    exact ⟨hfound, hname⟩
  · rintro ⟨hentity, hindex⟩
    rw [hentity]
    exact Option.bind_eq_some_iff.2 ⟨entity, rfl, Option.bind_eq_some_iff.2 ⟨index, hindex, rfl⟩⟩

theorem get?_of_resolve? (h : r.resolve? resource = some (entity, index)) : r.get? resource = some entity :=
  (resolve?_eq_some_iff.1 h).1

end EntityRegistry

namespace Catalog
variable {c : Catalog} {resource : String} {request : ListRequest} {user : User}

theorem route_eq_search_iff {entity : Entity} {index : String} {backend : SearchBackend}
    {selection : Selection} :
    c.route resource request = .ok (.search entity index backend selection) ↔
      c.search = some backend ∧ c.entities.resolve? resource = some (entity, index) ∧
        request.selection = .ok selection ∧ selection.isActive = true := by
  rw [route]
  cases hsearch : c.search with
  | none => simp [pure, Except.pure]
  | some b =>
    cases hresolve : c.entities.resolve? resource with
    | none => simp [pure, Except.pure]
    | some target =>
      obtain ⟨found, name⟩ := target
      cases hselection : request.selection with
      | error error => simp [bind, Except.bind]
      | ok s =>
        cases hactive : s.isActive with
        | false =>
          simp only [bind, Except.bind, hactive, pure, Except.pure]
          constructor
          · intro h
            cases h
          · rintro ⟨_, _, hs, ha⟩
            cases hs
            exact absurd ha (by simp [hactive])
        | true =>
          simp only [bind, Except.bind, hactive, pure, Except.pure, if_true]
          constructor
          · intro h
            cases h
            exact ⟨rfl, rfl, rfl, hactive⟩
          · rintro ⟨hb, ht, hs, _⟩
            cases hb
            cases ht
            cases hs
            rfl

theorem plan_of_search {entity : Entity} {index : String} {backend : SearchBackend} {selection : Selection}
    (h : c.route resource request = .ok (.search entity index backend selection)) :
    c.plan resource request user = (c.planFor entity index selection request user).map some := by
  rw [Catalog.plan, h]
  change (c.planFor entity index selection request user >>= fun plan => pure (some plan)) = _
  cases c.planFor entity index selection request user <;> rfl

/-- A plan is made exactly on the search route. -/
theorem plan_eq_some_iff {plan : SearchPlan} :
    c.plan resource request user = .ok (some plan) ↔
      ∃ entity index backend selection,
        c.route resource request = .ok (.search entity index backend selection) ∧
          c.planFor entity index selection request user = .ok plan := by
  constructor
  · intro h
    obtain ⟨taken, hroute, htaken⟩ := Except.bind_eq_ok_iff.1 h
    cases taken with
    | relational => cases htaken
    | search entity index backend selection =>
      refine ⟨entity, index, backend, selection, hroute, ?_⟩
      rw [plan_of_search hroute] at h
      cases hplan : c.planFor entity index selection request user with
      | error error =>
        rw [hplan] at h
        cases h
      | ok p =>
        rw [hplan] at h
        cases h
        rfl
  · rintro ⟨entity, index, backend, selection, hroute, hplan⟩
    rw [plan_of_search hroute, hplan]
    rfl

theorem planFor_eq_ok_iff {entity : Entity} {index : String} {selection : Selection} {plan : SearchPlan} :
    c.planFor entity index selection request user = .ok plan ↔
      ∃ filter page sort, c.restricted entity selection user = .ok filter ∧
        c.allowedPage request = .ok page ∧ request.sort = .ok sort ∧
          plan = ⟨index, Filter.queryOf filter, page,
            sort.map fun s => { s with field := entity.sortField s.field }.render⟩ := by
  simp only [planFor, Except.bind_eq_ok_iff]
  constructor
  · rintro ⟨filter, hf, page, hp, sort, hs, h⟩
    cases h
    exact ⟨filter, page, sort, hf, hp, hs, rfl⟩
  · rintro ⟨filter, page, sort, hf, hp, hs, rfl⟩
    exact ⟨filter, hf, page, hp, sort, hs, rfl⟩

end Catalog
end CatalogSearch
