import CatalogSearch.Proofs.Refusal
/-!
What a plan reads of a request. The main statement is `plan_reads_parameters`: parameters with other names may
stand anywhere in a request, and those that are read may be put in any order, as long as the last of those that
choose the page size stays the last, and so with the page number. A parameter that must not be repeated is
refused wherever the two stand.
-/
namespace CatalogSearch

inductive Padded {α : Type} (other : α → Prop) : List α → List α → Prop where
  | nil : Padded other [] []
  | keep (x : α) {xs ys : List α} : Padded other xs ys → Padded other (x :: xs) (x :: ys)
  | insert {x : α} {xs ys : List α} : other x → Padded other xs ys → Padded other xs (x :: ys)

theorem Padded.filter_eq {α : Type} {other : α → Prop} {p : α → Bool} {xs ys : List α}
    (h : Padded other xs ys) (hother : ∀ x, other x → p x = false) : ys.filter p = xs.filter p := by
  induction h with
  | nil => rfl
  | keep x _ ih => rw [List.filter_cons, List.filter_cons, ih]
  | insert hx _ ih =>
    rw [List.filter_cons_of_neg (by rw [hother _ hx]; exact Bool.false_ne_true)]
    exact ih

theorem eq_of_perm_of_length {α : Type} {xs ys : List α} (h : xs.Perm ys) (hlength : ¬ 1 < xs.length) :
    xs = ys := by
  match xs with
  | [] => exact h.nil_eq
  | [x] => exact h.singleton_eq
  | _ :: _ :: _ => simp at hlength

namespace ListRequest

def itemsOf (r : ListRequest) (keys : List String) : List (String × String) :=
  r.items.filter fun item => keys.contains item.1

def sizeKeys : List String := ["page[size]", "size"]

def numberKeys : List String := ["page[number]", "number"]

def readKeys : List String := ["q", "filter", "sort"] ++ sizeKeys ++ numberKeys

theorem values_eq_map_itemsOf (r : ListRequest) (key : String) :
    r.values key = (r.itemsOf [key]).map Prod.snd := by
  rw [values, itemsOf]
  induction r.items with
  | nil => rfl
  | cons item rest ih =>
    by_cases h : item.1 = key
    · simp [h, ih]
    · simp [h, ih]

theorem last?_eq_map_itemsOf (r : ListRequest) (keys : List String) :
    r.last? keys = (r.itemsOf keys).getLast?.map Prod.snd := rfl

/-- Requests that say the same: what may be given once only in any order, what chooses the page in one order. -/
structure SaysSame (r s : ListRequest) : Prop where
  text : (r.values "q").Perm (s.values "q")
  filter : (r.values "filter").Perm (s.values "filter")
  sort : (r.values "sort").Perm (s.values "sort")
  size : r.itemsOf sizeKeys = s.itemsOf sizeKeys
  number : r.itemsOf numberKeys = s.itemsOf numberKeys

theorem get?_eq_of_perm {r s : ListRequest} {key : String} (h : (r.values key).Perm (s.values key))
    (honce : ¬ 1 < (r.values key).length) : r.get? key = s.get? key := by
  rw [get?, get?, eq_of_perm_of_length h honce]

theorem sort_of_repeated {r : ListRequest} (h : 1 < (r.values "sort").length) :
    r.sort = .error (.validation .repeatedSort) := by
  rw [ListRequest.sort]
  cases hvalues : r.values "sort" with
  | nil => simp [hvalues] at h
  | cons value rest =>
    cases rest with
    | nil => simp [hvalues] at h
    | cons other rest => rfl

namespace SaysSame
variable {r s : ListRequest}

theorem selection_eq (h : SaysSame r s) : r.selection = s.selection := by
  have htext := h.text.length_eq
  have hfilter := h.filter.length_eq
  rw [selection, selection, Selection.ofItems_eq, Selection.ofItems_eq, htext, hfilter]
  by_cases hq : 1 < (s.values "q").length
  · rw [if_pos hq, if_pos hq]
  · rw [if_neg hq, if_neg hq]
    by_cases hf : 1 < (s.values "filter").length
    · rw [if_pos hf, if_pos hf]
    · have hq' : r.get? "q" = s.get? "q" := get?_eq_of_perm h.text (by rwa [htext])
      have hf' : r.get? "filter" = s.get? "filter" := get?_eq_of_perm h.filter (by rwa [hfilter])
      rw [if_neg hf, if_neg hf, hq', hf']

theorem sort_eq (h : SaysSame r s) : r.sort = s.sort := by
  by_cases hmany : 1 < (r.values "sort").length
  · have hmany' : 1 < (s.values "sort").length := by rwa [← h.sort.length_eq]
    rw [sort_of_repeated hmany, sort_of_repeated hmany']
  · rw [ListRequest.sort, ListRequest.sort, eq_of_perm_of_length h.sort hmany]

theorem page_eq (h : SaysSame r s) (default : UInt64) : r.page default = s.page default := by
  have hlast {keys : List String} (h : r.itemsOf keys = s.itemsOf keys) : r.last? keys = s.last? keys := by
    rw [last?_eq_map_itemsOf, last?_eq_map_itemsOf, h]
  have hsize : r.sizeText? = s.sizeText? := hlast h.size
  have hnumber : r.numberText? = s.numberText? := hlast h.number
  rw [ListRequest.page_eq, ListRequest.page_eq, hsize, hnumber]

end SaysSame

theorem saysSame_of_padded {r s : ListRequest}
    (h : Padded (fun item => item.1 ∉ readKeys) r.items s.items) : SaysSame s r := by
  have hitems (keys : List String) (hread : keys ⊆ readKeys) : s.itemsOf keys = r.itemsOf keys := by
    refine h.filter_eq fun item hother => ?_
    rw [← Bool.not_eq_true, List.contains_iff_mem]
    exact fun hmem => hother (hread hmem)
  have hvalues (key : String) (hread : key ∈ readKeys) : (s.values key).Perm (r.values key) := by
    rw [values_eq_map_itemsOf, values_eq_map_itemsOf, hitems [key] (by simpa using hread)]
  exact {
    text := hvalues "q" (by decide)
    filter := hvalues "filter" (by decide)
    sort := hvalues "sort" (by decide)
    size := hitems sizeKeys (by decide)
    number := hitems numberKeys (by decide) }

theorem saysSame_of_perm {r s : ListRequest} (h : r.items.Perm s.items)
    (hsize : r.itemsOf sizeKeys = s.itemsOf sizeKeys)
    (hnumber : r.itemsOf numberKeys = s.itemsOf numberKeys) : SaysSame r s :=
  ⟨h.filterMap _, h.filterMap _, h.filterMap _, hsize, hnumber⟩

end ListRequest

namespace Catalog
variable (c : Catalog)

theorem plan_eq_of_saysSame {r s : ListRequest} (h : ListRequest.SaysSame r s) (resource : String)
    (user : User) : c.plan resource r user = c.plan resource s user := by
  have hroute : c.route resource r = c.route resource s := by
    rw [route, route, h.selection_eq]
  have hplan (entity : Entity) (index : String) (selection : Selection) :
      c.planFor entity index selection r user = c.planFor entity index selection s user := by
    rw [planFor, planFor, allowedPage, allowedPage, h.page_eq, h.sort_eq]
  simp only [Catalog.plan, hroute, hplan]

/-- Neither other parameters nor the order of parameters make a difference to a plan, but for which of the page
sizes and which of the page numbers is the last. -/
theorem plan_reads_parameters (resource : String) (user : User) :
    (∀ r s : ListRequest, Padded (fun item => item.1 ∉ ListRequest.readKeys) r.items s.items →
      c.plan resource s user = c.plan resource r user) ∧
    ∀ r s : ListRequest, r.items.Perm s.items →
      r.itemsOf ListRequest.sizeKeys = s.itemsOf ListRequest.sizeKeys →
      r.itemsOf ListRequest.numberKeys = s.itemsOf ListRequest.numberKeys →
      c.plan resource s user = c.plan resource r user := by
  constructor
  · intro r s hpadded
    have hsame : ListRequest.SaysSame s r := ListRequest.saysSame_of_padded hpadded
    exact c.plan_eq_of_saysSame hsame resource user
  · intro r s hperm hsize hnumber
    have hsame : ListRequest.SaysSame r s := ListRequest.saysSame_of_perm hperm hsize hnumber
    exact (c.plan_eq_of_saysSame hsame resource user).symm

def twoProbes : ListRequest := ⟨[("q", "probe"), ("size", "5"), ("page[size]", "ten"), ("q", "sensor")]⟩

def twoProbesPadded : ListRequest :=
  ⟨[("lang", "de"), ("q", "probe"), ("size", "5"), ("page", "2"), ("page[size]", "ten"), ("q", "sensor")]⟩

def twoProbesReordered : ListRequest :=
  ⟨[("size", "5"), ("q", "sensor"), ("q", "probe"), ("page[size]", "ten")]⟩

theorem plan_reads_parameters_twoProbes :
    publicDevices.plan "devices" twoProbesPadded .anonymous = publicDevices.plan "devices" twoProbes .anonymous ∧
      publicDevices.plan "devices" twoProbesReordered .anonymous =
        publicDevices.plan "devices" twoProbes .anonymous := by
  have hpadded : Padded (fun item => item.1 ∉ ListRequest.readKeys) twoProbes.items twoProbesPadded.items :=
    .insert (by decide) (.keep _ (.keep _ (.insert (by decide) (.keep _ (.keep _ .nil)))))
  have hreordered : twoProbes.items.Perm twoProbesReordered.items := by decide
  obtain ⟨hothers, horder⟩ := plan_reads_parameters publicDevices "devices" .anonymous
  exact ⟨hothers twoProbes twoProbesPadded hpadded, horder twoProbes twoProbesReordered hreordered rfl rfl⟩

end Catalog
end CatalogSearch
