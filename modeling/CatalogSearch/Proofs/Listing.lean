import CatalogSearch.Proofs.Planning
/-!
Listing carries out the plan. The main statement is `list_carries_out_plan`: what listing answers and whom it
calls is settled by the plan and by the answers to the calls made, at most one of which goes to a store.
-/
namespace CatalogSearch

namespace Call

def asksStore : Call → Bool
  | .search _ _ => true
  | .relational _ _ _ => true
  | .load _ _ => false

def answeredAlike (c d : Catalog) : Call → Prop
  | .search index request =>
    c.search.map (fun backend => backend index request) = d.search.map fun backend => backend index request
  | .load entity hits =>
    c.loader.map (fun loader => loader entity hits) = d.loader.map fun loader => loader entity hits
  | .relational resource request user =>
    c.relational resource request user = d.relational resource request user

end Call

/-- One search, and what is made of its outcome: hits are loaded for an entity if there is a loader. -/
def SearchPlan.searched (plan : SearchPlan) (entity : Entity) (backend : SearchBackend)
    (loader : Option EagerLoader) : Answer Listing :=
  match backend plan.index plan.request, loader with
  | .error e, _ => ⟨.error e, [.search plan.index plan.request]⟩
  | .ok hits, none =>
    ⟨.ok ⟨hits.total, hits.hits.map SearchHit.document⟩, [.search plan.index plan.request]⟩
  | .ok hits, some loader =>
    ⟨(loader entity hits).map fun items => ⟨hits.total, items⟩,
      [.search plan.index plan.request, .load entity hits]⟩

theorem SearchPlan.countP_asksStore_searched_le (plan : SearchPlan) (entity : Entity) (backend : SearchBackend)
    (loader : Option EagerLoader) : (plan.searched entity backend loader).calls.countP Call.asksStore ≤ 1 := by
  rw [searched.eq_def]
  cases backend plan.index plan.request with
  | error e => exact Nat.le_refl 1
  | ok hits => cases loader <;> exact Nat.le_refl 1

theorem SearchPlan.search_mem_searched (plan : SearchPlan) (entity : Entity) (backend : SearchBackend)
    (loader : Option EagerLoader) :
    Call.search plan.index plan.request ∈ (plan.searched entity backend loader).calls := by
  rw [searched.eq_def]
  cases backend plan.index plan.request with
  | error e => exact List.mem_cons_self
  | ok hits => cases loader <;> exact List.mem_cons_self

namespace Catalog

/-- Catalogues that differ in their collaborators at most, and have the same of these. -/
structure SameMake (c d : Catalog) : Prop where
  settings : c.settings = d.settings
  entities : c.entities = d.entities
  visibility : c.visibility = d.visibility
  search : c.search.isSome = d.search.isSome
  loader : c.loader.isSome = d.loader.isSome

variable (c : Catalog) (resource : String) (request : ListRequest) (user : User)

/-- An answer as a plan has it: a failed plan is the answer without any call, no plan is left to the relational
store, and any other is searched with. -/
def CarriesOut (answer : Answer Listing) : Except ServiceError (Option SearchPlan) → Prop
  | .error e => answer = ⟨.error e, []⟩
  | .ok none => answer = ⟨c.relational resource request user, [.relational resource request user]⟩
  | .ok (some plan) => ∃ backend entity, c.search = some backend ∧
      c.entities.get? resource = some entity ∧ answer = plan.searched entity backend c.loader

theorem ask_then_load (plan : SearchPlan) (entity : Entity) (backend : SearchBackend) :
    (do
      let hits ← backend.ask plan.index plan.request
      let items ← c.load entity hits
      pure ⟨hits.total, items⟩) = plan.searched entity backend c.loader := by
  rw [SearchPlan.searched.eq_def, SearchBackend.ask]
  cases backend plan.index plan.request with
  | error e => rfl
  | ok hits =>
    rw [Answer.ok_bind, Catalog.load.eq_def]
    cases c.loader with
    | none => rfl
    | some loader =>
      simp only [EagerLoader.ask]
      cases loader entity hits <;> rfl

theorem list_of_search {entity : Entity} {index : String} {backend : SearchBackend} {selection : Selection}
    (h : c.route resource request = .ok (.search entity index backend selection)) :
    c.list resource request user =
      match c.planFor entity index selection request user with
      | .error e => ⟨.error e, []⟩
      | .ok plan => plan.searched entity backend c.loader := by
  rw [Catalog.list, h, Answer.lift_ok_bind]
  cases hplan : c.planFor entity index selection request user with
  | error e => simp only [hplan, Answer.lift_error_bind]
  | ok plan => simp only [hplan, Answer.lift_ok_bind, ask_then_load]

theorem carriesOut_plan :
    c.CarriesOut resource request user (c.list resource request user) (c.plan resource request user) := by
  cases hroute : c.route resource request with
  | error e =>
    rw [Catalog.list, Catalog.plan, hroute]
    rfl
  | ok taken =>
    cases taken with
    | relational =>
      rw [Catalog.list, Catalog.plan, hroute]
      rfl
    | search entity index backend selection =>
      obtain ⟨hbackend, hresolve, -, -⟩ := route_eq_search_iff.1 hroute
      rw [c.list_of_search resource request user hroute, plan_of_search hroute]
      cases c.planFor entity index selection request user with
      | error e => rfl
      | ok plan => exact ⟨backend, entity, hbackend, EntityRegistry.get?_of_resolve? hresolve, rfl⟩

theorem countP_asksStore_list_le : (c.list resource request user).calls.countP Call.asksStore ≤ 1 := by
  have h := c.carriesOut_plan resource request user
  match hplan : c.plan resource request user with
  | .error e =>
    rw [hplan] at h
    rw [h]
    exact Nat.zero_le 1
  | .ok none =>
    rw [hplan] at h
    rw [h]
    exact Nat.le_refl 1
  | .ok (some plan) =>
    rw [hplan] at h
    obtain ⟨backend, entity, -, -, hlist⟩ := h
    rw [hlist]
    exact plan.countP_asksStore_searched_le entity backend c.loader

theorem SameMake.planFor_eq {c d : Catalog} (h : SameMake c d) : d.planFor = c.planFor := by
  funext entity index selection request user
  rw [planFor, planFor, restricted, restricted, allowedPage, allowedPage, h.settings, h.visibility]

/-- A plan is made without a call, so it does not depend on what a collaborator would answer. -/
theorem SameMake.plan_eq {c d : Catalog} (h : SameMake c d) :
    d.plan resource request user = c.plan resource request user := by
  have hsearch := h.search
  simp only [Catalog.plan, route, h.planFor_eq, ← h.entities]
  cases hc : c.search with
  | none =>
    cases hd : d.search with
    | none => rfl
    | some backend' => simp [hc, hd] at hsearch
  | some backend =>
    cases hd : d.search with
    | none => simp [hc, hd] at hsearch
    | some backend' =>
      cases c.entities.resolve? resource with
      | none => rfl
      | some target =>
        cases request.selection with
        | error e => rfl
        | ok selection => cases hactive : selection.isActive <;> simp [hactive, bind, Except.bind, pure, Except.pure]

theorem searched_eq_of_answeredAlike {c d : Catalog} {plan : SearchPlan} {entity : Entity}
    {backend backend' : SearchBackend} (hc : c.search = some backend) (hd : d.search = some backend')
    (hloader : c.loader.isSome = d.loader.isSome)
    (hcalls : ∀ call ∈ (plan.searched entity backend c.loader).calls, call.answeredAlike c d) :
    plan.searched entity backend' d.loader = plan.searched entity backend c.loader := by
  have hsearch : backend plan.index plan.request = backend' plan.index plan.request := by
    have hsame := hcalls _ (plan.search_mem_searched entity backend c.loader)
    simpa [Call.answeredAlike, hc, hd] using hsame
  rw [SearchPlan.searched.eq_def] at hcalls
  rw [SearchPlan.searched.eq_def, SearchPlan.searched.eq_def, ← hsearch]
  cases hanswer : backend plan.index plan.request with
  | error e => rfl
  | ok hits =>
    cases hlc : c.loader with
    | none =>
      cases hld : d.loader with
      | none => rfl
      | some loader' => simp [hlc, hld] at hloader
    | some loader =>
      cases hld : d.loader with
      | none => simp [hlc, hld] at hloader
      | some loader' =>
        simp only [hanswer, hlc] at hcalls
        have hload : loader entity hits = loader' entity hits := by
          have hsame := hcalls (.load entity hits) (List.mem_cons_of_mem _ List.mem_cons_self)
          simpa [Call.answeredAlike, hlc, hld] using hsame
        simp only [hload]

/-- Where the calls made for a request are answered alike, so is the request: no other call is made for it. -/
theorem list_eq_of_answeredAlike {c d : Catalog} (h : SameMake c d)
    (hcalls : ∀ call ∈ (c.list resource request user).calls, call.answeredAlike c d) :
    d.list resource request user = c.list resource request user := by
  have hc := c.carriesOut_plan resource request user
  have hd := d.carriesOut_plan resource request user
  rw [h.plan_eq] at hd
  -- Both follow the same plan, so their answers can differ in the answer to a call only.
  match hplan : c.plan resource request user with
  | .error e =>
    rw [hplan] at hc hd
    exact hd.trans hc.symm
  | .ok none =>
    rw [hplan] at hc hd
    rw [hc] at hcalls
    have hsame : c.relational resource request user = d.relational resource request user :=
      hcalls _ List.mem_cons_self
    rw [hd, hc, hsame]
  | .ok (some plan) =>
    rw [hplan] at hc hd
    obtain ⟨backend, entity, hbackend, hentity, hlist⟩ := hc
    obtain ⟨backend', entity', hbackend', hentity', hlist'⟩ := hd
    rw [← h.entities, hentity] at hentity'
    cases hentity'
    rw [hlist] at hcalls
    rw [hlist, hlist', searched_eq_of_answeredAlike hbackend hbackend' h.loader hcalls]

/-- Listing carries out the plan, with one call to a store at most and none that its answer leaves out. -/
theorem list_carries_out_plan :
    c.CarriesOut resource request user (c.list resource request user) (c.plan resource request user) ∧
      (c.list resource request user).calls.countP Call.asksStore ≤ 1 ∧
      ∀ d, SameMake c d → (∀ call ∈ (c.list resource request user).calls, call.answeredAlike c d) →
        d.list resource request user = c.list resource request user :=
  ⟨c.carriesOut_plan resource request user, c.countP_asksStore_list_le resource request user,
    fun _ h hcalls => list_eq_of_answeredAlike resource request user h hcalls⟩

end Catalog
end CatalogSearch
