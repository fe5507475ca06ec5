import CatalogSearch.Command.Run
import CatalogSearch.Proofs.NormalForm
import CatalogSearch.Proofs.Parameters
import CatalogSearch.Proofs.Registration
/-!
The command that shows the query of a text and a filter. The main statement is `compile_previews_plan`: on the
known entities, seen without a rule, it shows the query that a request with just these two is searched with,
fails where the request is refused, and shows the query for everything where the request is relational.
-/
namespace CatalogSearch

namespace Selection

def isUnreadable (filter : Option String) : Bool := filter.any fun text => (Json.read? text).isNone

theorem simplify_compiled (fields : List String) (text filter : Option String) :
    (compiled fields text filter).map Filter.simplify = compiled fields text filter := by
  rw [compiled, Option.map_map]
  exact congrArg (fun collapse => Option.map collapse _) (funext Filter.simplify_simplify)

theorem textFilter_setText (s : Selection) (text : String) (fields : List String) :
    (s.setText text).textFilter fields = textPart fields text := by
  rw [textFilter, setText]
  cases hblank : Text.isBlankText text with
  | true => exact (textPart_eq_none hblank fields).symm
  | false => rfl

theorem lenientFilter_setCriteria (s : Selection) (value : Json) :
    (s.setCriteria value).criteria.bind Criteria.lenientFilter = Criteria.lenientFilter value := by
  rw [setCriteria]
  cases hnothing : asksNothing value with
  | true => exact (Criteria.lenientFilter_eq_none hnothing).symm
  | false => rfl

end Selection

theorem Filter.combine_none (f : Option Filter) : combine [f, none] = f := by
  cases f <;> rfl

namespace ListRequest

def ofParts (text filter : Option String) : ListRequest :=
  ⟨text.toList.map (fun value => ("q", value)) ++ filter.toList.map fun value => ("filter", value)⟩

variable (text filter : Option String)

theorem values_q_ofParts : (ofParts text filter).values "q" = text.toList := by
  cases text <;> cases filter <;> rfl

theorem values_filter_ofParts : (ofParts text filter).values "filter" = filter.toList := by
  cases text <;> cases filter <;> rfl

theorem get?_q_ofParts : (ofParts text filter).get? "q" = text := by
  rw [get?, values_q_ofParts]
  cases text <;> rfl

theorem get?_filter_ofParts : (ofParts text filter).get? "filter" = filter := by
  rw [get?, values_filter_ofParts]
  cases filter <;> rfl

theorem itemsOf_ofParts {keys : List String} (hq : "q" ∉ keys) (hfilter : "filter" ∉ keys) :
    (ofParts text filter).itemsOf keys = [] := by
  cases text <;> cases filter <;> simp [ofParts, itemsOf, hq, hfilter]

theorem last?_ofParts {keys : List String} (hq : "q" ∉ keys) (hfilter : "filter" ∉ keys) :
    (ofParts text filter).last? keys = none := by
  rw [last?_eq_map_itemsOf, itemsOf_ofParts text filter hq hfilter]
  rfl

theorem saysSame_ofParts {r : ListRequest} (h : r.items.Perm (ofParts text filter).items) :
    SaysSame r (ofParts text filter) := by
  have hnone {keys : List String} (hq : "q" ∉ keys) (hfilter : "filter" ∉ keys) :
      r.itemsOf keys = (ofParts text filter).itemsOf keys := by
    have hperm : (r.itemsOf keys).Perm ((ofParts text filter).itemsOf keys) := h.filter _
    rw [itemsOf_ofParts text filter hq hfilter] at hperm ⊢
    exact hperm.eq_nil
  exact saysSame_of_perm h (hnone (by decide) (by decide)) (hnone (by decide) (by decide))

theorem textRefusals_ofParts :
    (ofParts text filter).textRefusals =
      if Selection.isUnreadable filter then [.validation (.filter .notJson)] else [] := by
  have honce (value : Option String) : ¬ 1 < value.toList.length := by
    cases value <;> simp
  rw [textRefusals, values_q_ofParts, values_filter_ofParts, get?_filter_ofParts, if_neg (honce text),
    if_neg (honce filter)]
  rfl

theorem pageSize?_of_default {s : SearchSettings} {r : ListRequest} (hnone : r.sizeText? = none)
    (hsize : 1 ≤ s.defaultPageSize) : r.pageSize? s = some s.defaultPageSize := by
  rw [pageSize?, hnone, Option.elim_none]
  change some (if s.defaultPageSize ≤ 1 then 1 else s.defaultPageSize) = _
  split
  · next hle => rw [UInt64.le_antisymm hsize hle]
  · rfl

theorem searchRefusals_ofParts {s : SearchSettings} (hsize : 1 ≤ s.defaultPageSize)
    (hmax : s.defaultPageSize ≤ s.maxPageSize) : (ofParts text filter).searchRefusals s = [] := by
  have hsizeText : (ofParts text filter).sizeText? = none := last?_ofParts text filter (by decide) (by decide)
  have hnumberText : (ofParts text filter).numberText? = none :=
    last?_ofParts text filter (by decide) (by decide)
  have hsort : (ofParts text filter).values "sort" = [] := by
    rw [values_eq_map_itemsOf, itemsOf_ofParts text filter (by decide) (by decide)]
    rfl
  have hdashes : (ofParts text filter).bareDashes = [] := by
    rw [bareDashes, get?, hsort]
    rfl
  have hallowed : ¬ s.maxPageSize < s.defaultPageSize := UInt64.not_lt.2 hmax
  rw [searchRefusals, hsizeText, hnumberText, pageSize?_of_default hsizeText hsize, hsort, hdashes]
  simp [pageRefusal, hallowed]

theorem refusals_ofParts {s : SearchSettings} (hsize : 1 ≤ s.defaultPageSize)
    (hmax : s.defaultPageSize ≤ s.maxPageSize) :
    (ofParts text filter).refusals s =
      if Selection.isUnreadable filter then [.validation (.filter .notJson)] else [] := by
  rw [refusals, textRefusals_ofParts, searchRefusals_ofParts text filter hsize hmax, ite_self, List.append_nil]

theorem compiled_of_not_asks {text filter : Option String} (h : (ofParts text filter).asks = false)
    (fields : List String) : Selection.compiled fields text filter = none := by
  rw [asks, get?_q_ofParts, get?_filter_ofParts, Bool.or_eq_false_iff] at h
  have htext : text.bind (Selection.textPart fields) = none := by
    refine Option.bind_eq_none_iff.2 fun value hvalue => Selection.textPart_eq_none ?_ fields
    subst hvalue
    simpa using h.1
  have hfilter : filter.bind Selection.filterPart = none := by
    refine Option.bind_eq_none_iff.2 fun value hvalue => ?_
    refine Option.bind_eq_none_iff.2 fun v hv => Criteria.lenientFilter_eq_none ?_
    subst hvalue
    have hnothing := h.2
    rw [Option.bind_some, hv] at hnothing
    simpa using hnothing
  rw [Selection.compiled, htext, hfilter]
  rfl

end ListRequest

namespace Command
variable {resource : String} {entity : Entity}

def withText (text : Option String) : Selection :=
  (text.map (Selection.empty.withPolicy .lenient).setText).getD (Selection.empty.withPolicy .lenient)

def shown (fields : List String) (s : Selection) : Except CommandFailure Json :=
  match s.compile fields with
  | .ok filter => pure (Filter.queryOf filter)
  | .error e => throw (.filter e)

theorem compileQuery_text (h : EntityRegistry.standard.get? resource = some entity) (text : Option String) :
    compileQuery resource text none false = shown entity.textFields (withText text) := by
  rw [compileQuery, h]
  rfl

theorem compileQuery_filter (h : EntityRegistry.standard.get? resource = some entity) (text : Option String)
    {filter : String} {value : Json} (hread : Json.read? filter = some value) :
    compileQuery resource text (some filter) false =
      shown entity.textFields ((withText text).setCriteria value) := by
  rw [compileQuery, h]
  simp only [hread]
  rfl

theorem compileQuery_unreadable (h : EntityRegistry.standard.get? resource = some entity)
    (text : Option String) {filter : String} (hread : Json.read? filter = none) :
    compileQuery resource text (some filter) false = .error .filterNotJson := by
  rw [compileQuery, h]
  simp only [hread]
  rfl

theorem shown_of_policy {s : Selection} (h : s.policy = .lenient) (fields : List String) :
    shown fields s = .ok (Filter.queryOf ((Filter.combine
      [s.textFilter fields, s.criteria.bind Criteria.lenientFilter]).map Filter.simplify)) := by
  rw [shown, Selection.compile_lenient h]
  rfl

theorem policy_withText (text : Option String) : (withText text).policy = .lenient := by
  cases text <;> rfl

theorem criteria_withText (text : Option String) : (withText text).criteria = none := by
  cases text <;> rfl

theorem textFilter_withText (text : Option String) (fields : List String) :
    (withText text).textFilter fields = text.bind (Selection.textPart fields) := by
  cases text with
  | none => rfl
  | some text => exact Selection.textFilter_setText _ text fields

/-- What the command shows, and when it fails. -/
theorem compileQuery_lenient (h : EntityRegistry.standard.get? resource = some entity)
    (text filter : Option String) :
    compileQuery resource text filter false =
      if Selection.isUnreadable filter then .error .filterNotJson
      else .ok (Filter.queryOf (Selection.compiled entity.textFields text filter)) := by
  cases filter with
  | none =>
    rw [compileQuery_text h, shown_of_policy (policy_withText text), textFilter_withText, criteria_withText]
    rfl
  | some filter =>
    rw [Selection.isUnreadable, Option.any_some, Selection.compiled, Option.bind_some, Selection.filterPart]
    cases hread : Json.read? filter with
    | none => rw [compileQuery_unreadable h text hread, Option.isNone_none, if_pos rfl]
    | some value =>
      have hpolicy : ((withText text).setCriteria value).policy = .lenient := policy_withText text
      have htext : ((withText text).setCriteria value).textFilter entity.textFields =
          text.bind (Selection.textPart entity.textFields) := textFilter_withText text entity.textFields
      rw [compileQuery_filter h text hread, shown_of_policy hpolicy, htext, Selection.lenientFilter_setCriteria]
      rfl

theorem resolve?_standard (h : EntityRegistry.standard.get? resource = some entity) :
    (EntityRegistry.standard.resolve? resource).isSome = true := by
  have hindexed : ∀ entry ∈ EntityRegistry.standard.entities, entry.2.index.isSome = true := by
    decide +kernel
  obtain ⟨index, hindex⟩ := Option.isSome_iff_exists.1 (hindexed _ (Table.mem_of_find? h))
  have hresolve : EntityRegistry.standard.resolve? resource = some (entity, index) :=
    EntityRegistry.resolve?_eq_some_iff.2 ⟨h, hindex⟩
  rw [hresolve]
  rfl

theorem printed_compile {text filter : Option String} {query : Json}
    (h : compileQuery resource text filter false = .ok query) (w : Surroundings) :
    (run w (.compile resource text filter false)).printed = .ok (line query) := by
  rw [run, h]
  rfl

end Command

namespace Catalog
variable {c : Catalog} {resource : String} {text filter : Option String} {user : User}

theorem query_ofParts {entity : Entity} (hentity : c.entities.get? resource = some entity)
    (hvisibility : c.visibility = .empty) {plan : SearchPlan}
    (h : c.plan resource (.ofParts text filter) user = .ok (some plan)) :
    plan.request.query = Filter.queryOf (Selection.compiled entity.textFields text filter) := by
  obtain ⟨found, hfound, hquery⟩ := c.query_of_plan h
  rw [hentity] at hfound
  cases hfound
  have hvisible : c.visibility.filterFor entity.kind user = none := by
    rw [hvisibility, VisibilityRegistry.filterFor]
    split <;> rfl
  rw [hquery, hvisible, ListRequest.get?_q_ofParts, ListRequest.get?_filter_ofParts, Filter.combine_none,
    ← Selection.compiled, Selection.simplify_compiled]

theorem exists_error_ofParts_iff (hsearches : c.searches resource = true)
    (hsize : 1 ≤ c.settings.defaultPageSize) (hmax : c.settings.defaultPageSize ≤ c.settings.maxPageSize)
    (text filter : Option String) (user : User) :
    (∃ e, c.plan resource (.ofParts text filter) user = .error e) ↔ Selection.isUnreadable filter = true := by
  simp only [plan_eq_error_iff, hsearches, true_and, ListRequest.refusals_ofParts text filter hsize hmax]
  cases Selection.isUnreadable filter <;> simp

end Catalog

namespace Command

/-- The command shows the query with which a request with just the same text and filter is searched. -/
theorem compile_previews_plan {c : Catalog} {resource : String} (hentities : c.entities = .standard)
    (hvisibility : c.visibility = .empty) (hsearch : c.search.isSome = true)
    (hsize : 1 ≤ c.settings.defaultPageSize) (hmax : c.settings.defaultPageSize ≤ c.settings.maxPageSize)
    (hresource : (EntityRegistry.standard.get? resource).isSome = true) (text filter : Option String)
    {request : ListRequest} (hrequest : request.items.Perm (ListRequest.ofParts text filter).items)
    (user : User) :
    ((∃ e, compileQuery resource text filter false = .error e) ↔
      ∃ e, c.plan resource request user = .error e) ∧
    ((∃ e, c.plan resource request user = .error e) ↔ Selection.isUnreadable filter = true) ∧
    (∀ plan, c.plan resource request user = .ok (some plan) →
      compileQuery resource text filter false = .ok plan.request.query ∧
      ∀ w, (run w (.compile resource text filter false)).printed = .ok (line plan.request.query)) ∧
    (c.plan resource request user = .ok none →
      compileQuery resource text filter false = .ok Query.matchAll ∧
      ∀ w, (run w (.compile resource text filter false)).printed = .ok (line Query.matchAll)) := by
  obtain ⟨entity, hentity⟩ := Option.isSome_iff_exists.1 hresource
  have hsearches : c.searches resource = true := by
    rw [Catalog.searches, hsearch, hentities, resolve?_standard hentity]
    rfl
  have hcompile := compileQuery_lenient hentity text filter
  have hrefused := Catalog.exists_error_ofParts_iff hsearches hsize hmax text filter user
  rw [c.plan_eq_of_saysSame (ListRequest.saysSame_ofParts text filter hrequest)]
  have hreadable {answer : Option SearchPlan} (h : c.plan resource (.ofParts text filter) user = .ok answer) :
      Selection.isUnreadable filter = false := by
    rw [← Bool.not_eq_true, ← hrefused, h]
    rintro ⟨e, he⟩
    cases he
  refine ⟨?fails, hrefused, fun plan h => ?searched, fun h => ?relational⟩
  case fails =>
    rw [hrefused, hcompile]
    cases Selection.isUnreadable filter <;> simp
  case searched =>
    have hentity' : c.entities.get? resource = some entity := by rw [hentities, hentity]
    have hquery := Catalog.query_ofParts hentity' hvisibility h
    rw [hreadable h, if_neg Bool.false_ne_true, ← hquery] at hcompile
    exact ⟨hcompile, printed_compile hcompile⟩
  case relational =>
    have hasks : (ListRequest.ofParts text filter).asks = false := (c.isSome_plan hsearches h).symm
    rw [hreadable h, if_neg Bool.false_ne_true, ListRequest.compiled_of_not_asks hasks] at hcompile
    exact ⟨hcompile, printed_compile hcompile⟩

def openCatalog : Catalog := { Catalog.publicDevices with visibility := .empty }

theorem compile_previews_plan_oldProbes :
    ∃ plan, openCatalog.plan "devices" Catalog.oldProbes .anonymous = .ok (some plan) ∧
      compileQuery "devices" (some "probe OR \"old one\"") (some "[\x7b\"contacts.id\": null\x7d]") false =
        .ok plan.request.query := by
  have hresolve : openCatalog.entities.resolve? "devices" = some (EntityRegistry.device, "devices") := by
    decide +kernel
  have hpage : openCatalog.allowedPage Catalog.oldProbes = .ok ⟨1, 20⟩ := rfl
  have hresource : (EntityRegistry.standard.get? "devices").isSome = true := by decide +kernel
  obtain ⟨plan, hplan⟩ := Catalog.exists_plan rfl hresolve Catalog.selection_oldProbes rfl hpage rfl .anonymous
  have hitems : Catalog.oldProbes.items.Perm (ListRequest.ofParts (some "probe OR \"old one\"")
      (some "[\x7b\"contacts.id\": null\x7d]")).items := List.Perm.swap _ _ _
  obtain ⟨-, -, hsearched, -⟩ := compile_previews_plan (c := openCatalog) rfl rfl rfl (by decide) (by decide)
    hresource _ _ hitems .anonymous
  exact ⟨plan, hplan, (hsearched plan hplan).1⟩

end Command
end CatalogSearch
