import CatalogSearch.Proofs.Collapse
import CatalogSearch.Proofs.Leniency
import CatalogSearch.Proofs.Planning
import CatalogSearch.Proofs.Request
/-!
Visibility restricts a search and nothing else. The main statement is `plan_restricted`: the query of a plan
matches what the text, the structured filter and the visibility of the user match together, and all else in a
plan is the same for every user.
-/
namespace CatalogSearch

universe u

theorem Criteria.lenientFilter_eq_none {v : Json} (h : Selection.asksNothing v = true) :
    lenientFilter v = none := by
  match v with
  | .null =>
    have hnull : Criterion.ofJson .null = .malformed .notAnObject .null := Criterion.ofJson_malformed rfl
    simp [lenientFilter_eq, elements, hnull, Criterion.lenientFilter_malformed, Filter.all?]
  | .array [] => rw [lenientFilter_eq]; rfl

theorem bind_filter {α β : Type} {f : α → Option β} {p : α → Bool} (h : ∀ a, p a = false → f a = none)
    {x : Option α} : (x.filter p).bind f = x.bind f := by
  cases x with
  | none => rfl
  | some a =>
    cases hp : p a with
    | true => simp [Option.filter, hp]
    | false => simp [Option.filter, hp, h a hp]

namespace Selection

def textPart (fields : List String) (text : String) : Option Filter :=
  Clause.interpret fields (Token.tokenize text)

def filterPart (text : String) : Option Filter := (Json.read? text).bind Criteria.lenientFilter

/-- A blank text is no text, and would have had no tokens either. -/
theorem textPart_eq_none {text : String} (h : Text.isBlankText text = true) (fields : List String) :
    textPart fields text = none := by
  rw [textPart, Token.tokenize, Token.tokens_eq_nil h]
  rfl

theorem criteriaFilter_lenient {s : Selection} (h : s.policy = .lenient) :
    s.criteriaFilter = .ok (s.criteria.bind Criteria.lenientFilter) := by
  rw [criteriaFilter, h]
  cases s.criteria with
  | none => rfl
  | some v => exact Criteria.filter?_lenient v

theorem compile_lenient {s : Selection} (h : s.policy = .lenient) (fields : List String) :
    s.compile fields = .ok ((Filter.combine
      [s.textFilter fields, s.criteria.bind Criteria.lenientFilter]).map Filter.simplify) := by
  rw [compile, criteriaFilter_lenient h]
  rfl

theorem compile_of_ofItems {items : List (String × String)} {s : Selection} (h : ofItems items = .ok s)
    (fields : List String) :
    s.compile fields = .ok ((Filter.combine [(ListRequest.get? ⟨items⟩ "q").bind (textPart fields),
      (ListRequest.get? ⟨items⟩ "filter").bind filterPart]).map Filter.simplify) := by
  have htext : s.textFilter fields = (ListRequest.get? ⟨items⟩ "q").bind (textPart fields) := by
    rw [eq_of_ofItems h]
    exact bind_filter fun text hblank => textPart_eq_none (by simpa using hblank) fields
  have hcriteria : s.criteria.bind Criteria.lenientFilter =
      (ListRequest.get? ⟨items⟩ "filter").bind filterPart := by
    rw [eq_of_ofItems h]
    refine (bind_filter fun v hnothing => Criteria.lenientFilter_eq_none (by simpa using hnothing)).trans ?_
    exact Option.bind_assoc _ _ _
  have hpolicy : s.policy = .lenient := by rw [eq_of_ofItems h]
  rw [compile_lenient hpolicy, hcriteria, htext]

end Selection

def SearchPlan.outline (p : SearchPlan) : String × Page × List Json :=
  (p.index, p.request.page, p.request.sort)

namespace Catalog
variable (c : Catalog)

/-- What the query text, the structured filter and the rule for the user each contribute to a search. -/
def parts (entity : Entity) (request : ListRequest) (user : User) : List (Option Filter) :=
  [(request.get? "q").bind (Selection.textPart entity.textFields),
    (request.get? "filter").bind Selection.filterPart,
    c.visibility.filterFor entity.kind user]

theorem restricted_of_selection {request : ListRequest} {selection : Selection}
    (h : request.selection = .ok selection) (entity : Entity) (user : User) :
    c.restricted entity selection user = .ok ((Filter.combine
      [(Filter.combine [(request.get? "q").bind (Selection.textPart entity.textFields),
        (request.get? "filter").bind Selection.filterPart]).map Filter.simplify,
      c.visibility.filterFor entity.kind user]).map Filter.simplify) := by
  rw [restricted, Selection.compile_of_ofItems (ServiceError.liftFilter_eq_ok_iff.1 h)]
  rfl

theorem exists_plan {c : Catalog} {backend : SearchBackend} {resource index : String} {entity : Entity}
    {request : ListRequest} {selection : Selection} {page : Page} {sort : List SortField}
    (hsearch : c.search = some backend) (hresolve : c.entities.resolve? resource = some (entity, index))
    (hselection : request.selection = .ok selection) (hactive : selection.isActive = true)
    (hpage : c.allowedPage request = .ok page) (hsort : request.sort = .ok sort)
    (user : User) : ∃ plan, c.plan resource request user = .ok (some plan) := by
  have hroute : c.route resource request = .ok (.search entity index backend selection) :=
    route_eq_search_iff.2 ⟨hsearch, hresolve, hselection, hactive⟩
  have hfilter := c.restricted_of_selection hselection entity user
  exact ⟨_, plan_eq_some_iff.2 ⟨entity, index, backend, selection, hroute,
    planFor_eq_ok_iff.2 ⟨_, page, sort, hfilter, hpage, hsort, rfl⟩⟩⟩

theorem outline_planFor (entity : Entity) (index : String) (selection : Selection) (request : ListRequest)
    (user other : User) :
    (c.planFor entity index selection request user).map SearchPlan.outline =
      (c.planFor entity index selection request other).map SearchPlan.outline := by
  rw [planFor, planFor, restricted, restricted]
  cases ServiceError.liftFilter (selection.compile entity.textFields) with
  | error error => rfl
  | ok compiled =>
    cases hpage : c.allowedPage request with
    | error error => rfl
    | ok page => cases hsort : request.sort <;> rfl

theorem outline_plan (resource : String) (request : ListRequest) (user other : User) :
    (c.plan resource request user).map (Option.map SearchPlan.outline) =
      (c.plan resource request other).map (Option.map SearchPlan.outline) := by
  rw [Catalog.plan, Catalog.plan]
  cases c.route resource request with
  | error error => rfl
  | ok taken =>
    cases taken with
    | relational => rfl
    | search entity index backend selection =>
      have hsome (x : Except ServiceError SearchPlan) :
          (x >>= fun plan => pure (some plan)).map (Option.map SearchPlan.outline) =
            (x.map SearchPlan.outline).map some := by
        cases x <;> rfl
      change (c.planFor entity index selection request user >>= fun plan => pure (some plan)).map _ =
        (c.planFor entity index selection request other >>= fun plan => pure (some plan)).map _
      rw [hsome, hsome, c.outline_planFor entity index selection request user other]

theorem query_of_plan {resource : String} {request : ListRequest} {user : User} {plan : SearchPlan}
    (h : c.plan resource request user = .ok (some plan)) :
    ∃ entity, c.entities.get? resource = some entity ∧
      plan.request.query = Filter.queryOf ((Filter.combine
        [(Filter.combine [(request.get? "q").bind (Selection.textPart entity.textFields),
          (request.get? "filter").bind Selection.filterPart]).map Filter.simplify,
        c.visibility.filterFor entity.kind user]).map Filter.simplify) := by
  obtain ⟨entity, index, backend, selection, hroute, hplan⟩ := plan_eq_some_iff.1 h
  obtain ⟨-, hresolve, hselection, -⟩ := route_eq_search_iff.1 hroute
  obtain ⟨filter, page, sort, hfilter, -, -, rfl⟩ := planFor_eq_ok_iff.1 hplan
  rw [c.restricted_of_selection hselection] at hfilter
  cases hfilter
  exact ⟨entity, EntityRegistry.get?_of_resolve? hresolve, rfl⟩

/-- Whoever asks, the query of a plan matches what all its parts match, and the rest of a plan is the same. -/
theorem plan_restricted (resource : String) (request : ListRequest) (user : User) :
    (∀ plan, c.plan resource request user = .ok (some plan) →
      ∃ entity, c.entities.get? resource = some entity ∧
        (user.isSuperuser = true → c.visibility.filterFor entity.kind user = none) ∧
        (c.parts entity request user = [none, none, none] → plan.request.query = Query.matchAll) ∧
        ∀ {Object : Type u} (e : Engine Object) (o : Object),
          e.finds plan.request.query o = true ↔
            ∀ part, some part ∈ c.parts entity request user → e.finds part.render o = true) ∧
    ∀ other, (c.plan resource request other).map (Option.map SearchPlan.outline) =
      (c.plan resource request user).map (Option.map SearchPlan.outline) := by
  refine ⟨fun plan h => ?_, fun other => c.outline_plan resource request other user⟩
  obtain ⟨entity, hentity, hquery⟩ := c.query_of_plan h
  refine ⟨entity, hentity, VisibilityRegistry.filterFor_superuser _ _, fun hparts => ?_, fun e o => ?_⟩
  · simp only [parts, List.cons.injEq] at hparts
    rw [hquery, hparts.1, hparts.2.1, hparts.2.2.1]
    rfl
  · have hall : e.finds plan.request.query o =
        (c.parts entity request user).all fun part => e.finds (Filter.queryOf part) o := by
      rw [hquery, Filter.finds_queryOf_combine, List.all_cons, Filter.finds_queryOf_combine, parts]
      simp only [List.all_cons, List.all_nil, Bool.and_true, Bool.and_assoc]
    rw [hall, Filter.all_finds_queryOf_iff]

def publicDevices : Catalog where
  settings := {}
  entities := .standard
  visibility := VisibilityRegistry.empty.register .device fun _ => some (.term "is_public" (.bool true))
  relational _ _ _ := .ok ⟨0, []⟩
  search := some fun _ _ => .ok ⟨0, []⟩
  loader := none

theorem resolve?_devices :
    publicDevices.entities.resolve? "devices" = some (EntityRegistry.device, "devices") := by
  decide +kernel

def oldProbes : ListRequest := ⟨[("filter", "[\x7b\"contacts.id\": null\x7d]"), ("q", "probe OR \"old one\"")]⟩

def oldProbesSelection : Selection :=
  ⟨some "probe OR \"old one\"", some (.array [.object [("contacts.id", .null)]]), .lenient⟩

theorem selection_oldProbes : oldProbes.selection = .ok oldProbesSelection := by
  have hread : Json.read? "[\x7b\"contacts.id\": null\x7d]" =
      some (.array [.object [("contacts.id", .null)]]) := by cbv
  have hq : ¬ 1 < Selection.count "q" oldProbes.items := by decide
  have hfilter : ¬ 1 < Selection.count "filter" oldProbes.items := by decide
  refine ServiceError.liftFilter_eq_ok_iff.2 ?_
  rw [Selection.ofItems, if_neg hq, if_neg hfilter]
  change (Selection.takeItem _ _ >>= fun s => _) = _
  rw [Selection.takeItem_filter, Selection.takeFilter, hread]
  rfl

theorem exists_plan_oldProbes (user : User) :
    ∃ plan, publicDevices.plan "devices" oldProbes user = .ok (some plan) := by
  have hpage : publicDevices.allowedPage oldProbes = .ok ⟨1, 20⟩ := rfl
  exact exists_plan rfl resolve?_devices selection_oldProbes rfl hpage rfl user

theorem plan_restricted_publicDevices :
    ∃ plan, publicDevices.plan "devices" oldProbes .anonymous = .ok (some plan) ∧
      ∀ (e : Engine Document) (o : Document), e.finds plan.request.query o = true →
        e.passes (.term "is_public" (.bool true)) o = true := by
  obtain ⟨plan, h⟩ := exists_plan_oldProbes .anonymous
  obtain ⟨entity, hentity, -, -, hfinds⟩ :=
    (plan_restricted publicDevices "devices" oldProbes .anonymous).1 plan h
  have hdevice : publicDevices.entities.get? "devices" = some EntityRegistry.device := by decide +kernel
  rw [hdevice] at hentity
  cases hentity
  refine ⟨plan, h, fun e o ho => (hfinds e o).1 ho (.term "is_public" (.bool true)) ?_⟩
  exact List.mem_cons_of_mem _ (List.mem_cons_of_mem _ List.mem_cons_self)

end Catalog
end CatalogSearch
