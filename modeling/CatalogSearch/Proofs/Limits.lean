import CatalogSearch.Proofs.Paging
import CatalogSearch.Settings
/-!
The limits that every search call keeps. The main statement is `plan_keeps_limits`: the page of a plan is not
empty, its number has 63 bits and its size is at most the greatest one allowed; validated settings allow their own
default; and where nothing else is wrong, a page size is refused only for being too large.
-/
namespace CatalogSearch

theorem UInt64.toNat_max_one (n : UInt64) : (max n 1).toNat = max n.toNat 1 := by
  change (if n ≤ 1 then (1 : UInt64) else n).toNat = _
  by_cases h : n ≤ 1
  · rw [if_pos h]
    rw [UInt64.le_iff_toNat_le] at h
    simp only [UInt64.toNat_one] at h ⊢
    omega
  · rw [if_neg h]
    rw [UInt64.le_iff_toNat_le] at h
    simp only [UInt64.toNat_one] at h
    omega

theorem UInt64.max_one_eq_self {n : UInt64} (h : 1 ≤ n.toNat) : max n 1 = n := by
  rw [← UInt64.toNat_inj, toNat_max_one]
  omega

namespace Page
variable {keys : List String} {items : List (String × String)} {default n : UInt64}

theorem Chooses.one_le (h : Chooses keys default items n) (hdefault : 1 ≤ default.toNat) : 1 ≤ n.toNat := by
  cases h with
  | inl hgiven =>
    obtain ⟨raw, -, hdenotes⟩ := hgiven
    exact hdenotes.one_le
  | inr habsent =>
    rw [habsent.2]
    exact hdefault

theorem Chooses.le_greatest (h : Chooses keys default items n) (hdefault : default.toNat ≤ 2 ^ 63 - 1) :
    n.toNat ≤ 2 ^ 63 - 1 := by
  cases h with
  | inl hgiven =>
    obtain ⟨raw, -, hdenotes⟩ := hgiven
    exact hdenotes.le_greatest
  | inr habsent =>
    rw [habsent.2]
    exact hdefault

theorem Chooses.eq_default (h : Chooses keys default items n) (habsent : ∀ item ∈ items, item.1 ∉ keys) :
    n = default := by
  cases h with
  | inl hgiven =>
    obtain ⟨raw, hlast, -⟩ := hgiven
    have hsome := last?_eq_some_iff.2 hlast
    rw [last?_eq_none_iff.2 habsent] at hsome
    cases hsome
  | inr hdefault => exact hdefault.2

end Page

namespace Settings

theorem validate_eq_ok_iff {s : Settings} :
    s.validate = .ok () ↔ 1 ≤ s.search.defaultPageSize.toNat ∧
      s.search.defaultPageSize ≤ s.search.maxPageSize := by
  rw [validate, UInt64.le_iff_toNat_le]
  by_cases hzero : s.search.defaultPageSize = 0
  · rw [if_pos hzero, hzero]
    constructor
    · intro h
      cases h
    · intro h
      exact absurd h.1 (by decide)
  · have hpositive : s.search.defaultPageSize.toNat ≠ 0 := fun h => hzero (UInt64.toNat_inj.1 h)
    rw [if_neg hzero]
    by_cases hlarge : s.search.maxPageSize < s.search.defaultPageSize
    · rw [if_pos hlarge]
      rw [UInt64.lt_iff_toNat_lt] at hlarge
      constructor
      · intro h
        cases h
      · intro h
        omega
    · rw [if_neg hlarge]
      rw [UInt64.lt_iff_toNat_lt] at hlarge
      constructor
      · intro _
        omega
      · intro _
        rfl

end Settings

namespace ListRequest

theorem pageSize?_of_tooCostly {s : SearchSettings} {r : ListRequest} {size maximum : UInt64}
    (h : .tooCostly size maximum ∈ r.refusals s) : r.pageSize? s = some size ∧ s.maxPageSize < size := by
  have htext : .tooCostly size maximum ∉ r.textRefusals := by simp [textRefusals]
  have hpage (name : String) (text : Option String) : .tooCostly size maximum ∉ pageRefusal name text := by
    cases text <;> simp [pageRefusal]
  rw [refusals, List.mem_append] at h
  have hsearch := h.resolve_left htext
  by_cases hasks : r.asks = true
  · rw [if_pos hasks] at hsearch
    simp only [searchRefusals, List.mem_append, hpage, false_or] at hsearch
    obtain (hlarge | hrepeated) | hdash := hsearch
    · obtain ⟨found, hfound, heq⟩ := List.mem_map.1 hlarge
      cases heq
      obtain ⟨hsize, hlarge⟩ := List.mem_filter.1 hfound
      exact ⟨Option.mem_toList.1 hsize, of_decide_eq_true hlarge⟩
    · simp at hrepeated
    · simp at hdash
  · rw [if_neg hasks] at hsearch
    cases hsearch

end ListRequest

namespace Catalog
variable {c : Catalog} {resource : String} {request : ListRequest} {user : User}

theorem allowedPage_of_large {page : Page}
    (hpage : Page.ofItems request.items c.settings.defaultPageSize = .ok page)
    (hlarge : c.settings.maxPageSize < page.size) :
    c.allowedPage request = .error (.tooCostly page.size c.settings.maxPageSize) := by
  have hread : request.page c.settings.defaultPageSize = .ok page := ServiceError.liftFilter_eq_ok_iff.2 hpage
  rw [allowedPage, hread]
  change (if c.settings.maxPageSize < page.size then _ else _) = _
  rw [if_pos hlarge]
  rfl

theorem allowedPage_eq_ok_iff {page : Page} :
    c.allowedPage request = .ok page ↔
      Page.ofItems request.items c.settings.defaultPageSize = .ok page ∧ page.size ≤ c.settings.maxPageSize := by
  rw [← ServiceError.liftFilter_eq_ok_iff, allowedPage, Except.bind_eq_ok_iff]
  constructor
  · intro h
    obtain ⟨read, hread, h⟩ := h
    by_cases hlarge : c.settings.maxPageSize < read.size
    · rw [if_pos hlarge] at h
      cases h
    · rw [if_neg hlarge] at h
      cases h
      exact ⟨hread, UInt64.not_lt.1 hlarge⟩
  · intro h
    refine ⟨page, h.1, ?_⟩
    rw [if_neg (UInt64.not_lt.2 h.2)]
    rfl

/-- A plan has a page that the request reads as, within the limits. -/
theorem page_of_plan {plan : SearchPlan} (h : c.plan resource request user = .ok (some plan)) :
    Page.ofItems request.items c.settings.defaultPageSize = .ok plan.request.page ∧
      plan.request.page.size ≤ c.settings.maxPageSize := by
  obtain ⟨entity, index, backend, selection, -, hplan⟩ := plan_eq_some_iff.1 h
  obtain ⟨filter, page, sort, -, hpage, -, hparts⟩ := planFor_eq_ok_iff.1 hplan
  rw [hparts]
  exact allowedPage_eq_ok_iff.1 hpage

theorem not_tooCostly_of_default {settings : Settings} (hvalid : settings.validate = .ok ())
    (hsettings : c.settings = settings.search) (hsize : ∀ item ∈ request.items, item.1 ∉ ListRequest.sizeKeys)
    (size maximum : UInt64) : c.plan resource request user ≠ .error (.tooCostly size maximum) := by
  intro h
  have hmem := List.mem_of_head? (c.plan_eq_error_iff.1 h).2
  obtain ⟨hcomes, hlarge⟩ := ListRequest.pageSize?_of_tooCostly hmem
  have hnone : request.sizeText? = none := Page.last?_eq_none_iff.2 hsize
  rw [ListRequest.pageSize?, hnone] at hcomes
  cases hcomes
  obtain ⟨hone, hdefault⟩ := Settings.validate_eq_ok_iff.1 hvalid
  rw [← hsettings] at hone hdefault
  rw [UInt64.lt_iff_toNat_lt, UInt64.toNat_max_one] at hlarge
  rw [UInt64.le_iff_toNat_le] at hdefault
  omega

/-- A request on the search route that gives this page size, and nothing else in it is refused. -/
structure GivesSize (c : Catalog) (resource : String) (request : ListRequest) (size : UInt64) : Prop where
  route : ∃ entity index backend selection,
    c.route resource request = .ok (.search entity index backend selection)
  size : ∃ raw, Page.LastIs ListRequest.sizeKeys request.items raw ∧ Page.Denotes raw size
  number : ∃ number, Page.Chooses ListRequest.numberKeys 1 request.items number
  sort : ∃ sort, request.sort = .ok sort

section Given
variable {size : UInt64}

theorem GivesSize.exists_page (h : c.GivesSize resource request size) :
    ∃ page, Page.ofItems request.items c.settings.defaultPageSize = .ok page ∧ page.size = size := by
  obtain ⟨number, hnumber⟩ := h.number
  exact ⟨⟨number, size⟩, Page.ofItems_eq_ok_iff.2 ⟨.inl h.size, hnumber⟩, rfl⟩

theorem exists_plan_of_givesSize (h : c.GivesSize resource request size)
    (hallowed : size ≤ c.settings.maxPageSize) :
    ∃ plan, c.plan resource request user = .ok (some plan) ∧ plan.request.page.size = size := by
  obtain ⟨entity, index, backend, selection, hroute⟩ := h.route
  obtain ⟨hsearch, hresolve, hselection, hactive⟩ := route_eq_search_iff.1 hroute
  obtain ⟨page, hread, hsize⟩ := h.exists_page
  obtain ⟨sort, hsort⟩ := h.sort
  have hpage : c.allowedPage request = .ok page := allowedPage_eq_ok_iff.2 ⟨hread, by rwa [hsize]⟩
  obtain ⟨plan, hplan⟩ := exists_plan hsearch hresolve hselection hactive hpage hsort user
  have hplanned := (page_of_plan hplan).1
  rw [hread] at hplanned
  cases hplanned
  exact ⟨plan, hplan, hsize⟩

theorem plan_of_givesSize_large (h : c.GivesSize resource request size)
    (hlarge : c.settings.maxPageSize < size) :
    c.plan resource request user = .error (.tooCostly size c.settings.maxPageSize) := by
  obtain ⟨entity, index, backend, selection, hroute⟩ := h.route
  obtain ⟨page, hread, hsize⟩ := h.exists_page
  have hselection := (route_eq_search_iff.1 hroute).2.2.1
  have hpage := allowedPage_of_large hread (by rwa [hsize])
  rw [plan_of_search hroute, planFor, c.restricted_of_selection hselection, hpage, hsize]
  rfl

end Given

/-- Every search call is within the limits. Valid settings have a default size that is never too large, and a
size that is given and can be read is allowed up to the greatest one. -/
theorem plan_keeps_limits (c : Catalog) (resource : String) (request : ListRequest) (user : User) :
    (∀ plan, c.plan resource request user = .ok (some plan) →
      1 ≤ plan.request.page.number.toNat ∧ plan.request.page.number.toNat ≤ 2 ^ 63 - 1 ∧
        1 ≤ plan.request.page.size.toNat ∧ plan.request.page.size ≤ c.settings.maxPageSize) ∧
    (∀ settings : Settings, settings.validate = .ok () → c.settings = settings.search →
      (∀ item ∈ request.items, item.1 ∉ ListRequest.sizeKeys) →
      (∀ size maximum, c.plan resource request user ≠ .error (.tooCostly size maximum)) ∧
        ∀ plan, c.plan resource request user = .ok (some plan) →
          plan.request.page.size = c.settings.defaultPageSize) ∧
    ∀ size, c.GivesSize resource request size →
      ((∃ plan, c.plan resource request user = .ok (some plan) ∧ plan.request.page.size = size) ↔
        size ≤ c.settings.maxPageSize) ∧
      (c.settings.maxPageSize < size →
        c.plan resource request user = .error (.tooCostly size c.settings.maxPageSize)) := by
  refine ⟨?limits, ?default, ?given⟩
  case limits =>
    intro plan hplan
    obtain ⟨hpage, hallowed⟩ := page_of_plan hplan
    obtain ⟨hsize, hnumber⟩ := Page.ofItems_eq_ok_iff.1 hpage
    have hdefault : 1 ≤ (max c.settings.defaultPageSize 1).toNat := by
      rw [UInt64.toNat_max_one]
      omega
    exact ⟨hnumber.one_le (by decide), hnumber.le_greatest (by decide), hsize.one_le hdefault, hallowed⟩
  case default =>
    intro settings hvalid hsettings hnone
    refine ⟨not_tooCostly_of_default hvalid hsettings hnone, ?_⟩
    intro plan hplan
    obtain ⟨hsize, -⟩ := Page.ofItems_eq_ok_iff.1 (page_of_plan hplan).1
    have hone := (Settings.validate_eq_ok_iff.1 hvalid).1
    rw [← hsettings] at hone
    rw [hsize.eq_default hnone, UInt64.max_one_eq_self hone]
  case given =>
    intro size h
    refine ⟨⟨?allowed, exists_plan_of_givesSize h⟩, plan_of_givesSize_large h⟩
    intro hplan
    obtain ⟨plan, hplan, hsize⟩ := hplan
    rw [← hsize]
    exact (page_of_plan hplan).2

def probes : ListRequest := ⟨[("q", "probe")]⟩

def sizedProbes (size : String) : ListRequest := probes.add "page[size]" size

theorem givesSize_sizedProbes {size : String} {n : UInt64} (h : Page.positive? size = some n) :
    publicDevices.GivesSize "devices" (sizedProbes size) n where
  route := by
    have hselection : (sizedProbes size).selection = .ok ⟨some "probe", none, .lenient⟩ := rfl
    exact ⟨_, _, _, _, route_eq_search_iff.2 ⟨rfl, resolve?_devices, hselection, rfl⟩⟩
  size := ⟨size, ⟨probes.items, "page[size]", [], rfl, by decide, by simp⟩, Page.positive?_eq_some_iff.1 h⟩
  number := ⟨1, .inr ⟨by simp [sizedProbes, probes, ListRequest.add, ListRequest.numberKeys], rfl⟩⟩
  sort := ⟨[], rfl⟩

theorem plan_keeps_limits_probes :
    (∃ plan, publicDevices.plan "devices" probes .anonymous = .ok (some plan) ∧
      plan.request.page.size = 20) ∧
    (∃ plan, publicDevices.plan "devices" (sizedProbes "10000") .anonymous = .ok (some plan) ∧
      plan.request.page.size = 10000) ∧
    publicDevices.plan "devices" (sizedProbes " +010001") .anonymous = .error (.tooCostly 10001 10000) := by
  have hlimits (request : ListRequest) := plan_keeps_limits publicDevices "devices" request .anonymous
  have hselection : probes.selection = .ok ⟨some "probe", none, .lenient⟩ := rfl
  have hpage : publicDevices.allowedPage probes = .ok ⟨1, 20⟩ := rfl
  obtain ⟨plan, hplan⟩ := exists_plan rfl resolve?_devices hselection rfl hpage rfl .anonymous
  have hnone : ∀ item ∈ probes.items, item.1 ∉ ListRequest.sizeKeys := by
    simp [probes, ListRequest.sizeKeys]
  have hdefault := (hlimits probes).2.1 {} rfl rfl hnone
  have hgreatest : publicDevices.GivesSize "devices" (sizedProbes "10000") 10000 :=
    givesSize_sizedProbes (by decide +kernel)
  have hlarge : publicDevices.GivesSize "devices" (sizedProbes " +010001") 10001 :=
    givesSize_sizedProbes (by decide +kernel)
  exact ⟨⟨plan, hplan, hdefault.2 plan hplan⟩, ((hlimits _).2.2 _ hgreatest).1.2 (by decide),
    ((hlimits _).2.2 _ hlarge).2 (by decide)⟩

end Catalog
end CatalogSearch
