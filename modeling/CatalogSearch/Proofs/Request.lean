import CatalogSearch.ListRequest
/-!
The selection of a list request, told by the values of `q` and `filter` alone. Where the two are given at most
once, it does not matter which of them comes first or what stands around them.
-/
namespace CatalogSearch

theorem ServiceError.liftFilter_eq_ok_iff {α : Type} {x : Except FilterError α} {a : α} :
    liftFilter x = .ok a ↔ x = .ok a := by
  cases x <;> simp [liftFilter]

namespace ListRequest

theorem values_cons_self (key value : String) (items : List (String × String)) :
    values ⟨(key, value) :: items⟩ key = value :: values ⟨items⟩ key := by
  simp [values]

theorem values_cons_of_ne {k key : String} (h : k ≠ key) (value : String) (items : List (String × String)) :
    values ⟨(k, value) :: items⟩ key = values ⟨items⟩ key := by
  simp [values, h]

theorem count_eq_length_values (items : List (String × String)) (key : String) :
    Selection.count key items = (values ⟨items⟩ key).length := by
  induction items with
  | nil => rfl
  | cons item rest ih =>
    obtain ⟨k, value⟩ := item
    by_cases h : k = key
    · subst h
      simpa [Selection.count, values_cons_self] using ih
    · simpa [Selection.count, values_cons_of_ne h, h] using ih

theorem values_eq_toList {r : ListRequest} {key : String} (h : ¬ 1 < (r.values key).length) :
    r.values key = (r.get? key).toList := by
  rw [get?]
  match hv : r.values key with
  | [] => rfl
  | [value] => rfl
  | _ :: _ :: _ => simp [hv] at h

end ListRequest

namespace Selection

def takeFilter (s : Selection) (text : String) : Except FilterError Selection :=
  match Json.read? text with
  | some value => pure (s.setCriteria value)
  | none => throw .notJson

theorem takeFilter_setText (s : Selection) (text filter : String) :
    (s.setText text).takeFilter filter = (s.takeFilter filter).map fun s => s.setText text := by
  rw [takeFilter, takeFilter]
  cases Json.read? filter <;> rfl

theorem foldlM_takeFilter_setText (filters : List String) (s : Selection) (text : String) :
    filters.foldlM takeFilter (s.setText text) = (filters.foldlM takeFilter s).map fun s => s.setText text := by
  induction filters generalizing s with
  | nil => rfl
  | cons filter rest ih =>
    rw [List.foldlM_cons, List.foldlM_cons, takeFilter_setText]
    cases s.takeFilter filter with
    | error error => rfl
    | ok s => exact ih s

theorem takeItem_q (s : Selection) (text : String) : s.takeItem ("q", text) = pure (s.setText text) :=
  if_pos rfl

theorem takeItem_filter (s : Selection) (text : String) : s.takeItem ("filter", text) = s.takeFilter text :=
  rfl

theorem takeItem_other (s : Selection) {key : String} (value : String) (hq : key ≠ "q")
    (hf : key ≠ "filter") : s.takeItem (key, value) = pure s := by
  rw [takeItem, if_neg hq, if_neg hf]

theorem foldlM_takeItem (items : List (String × String)) (s : Selection) :
    items.foldlM takeItem s =
      ((ListRequest.values ⟨items⟩ "filter").foldlM takeFilter s).map fun s =>
        (ListRequest.values ⟨items⟩ "q").foldl setText s := by
  induction items generalizing s with
  | nil => rfl
  | cons item rest ih =>
    obtain ⟨key, value⟩ := item
    rw [List.foldlM_cons]
    by_cases hq : key = "q"
    · subst hq
      rw [ListRequest.values_cons_self, ListRequest.values_cons_of_ne (by decide), takeItem_q, pure_bind, ih,
        foldlM_takeFilter_setText]
      cases (ListRequest.values ⟨rest⟩ "filter").foldlM takeFilter s <;> rfl
    · rw [ListRequest.values_cons_of_ne hq]
      by_cases hf : key = "filter"
      · subst hf
        rw [ListRequest.values_cons_self, takeItem_filter, List.foldlM_cons]
        cases s.takeFilter value with
        | error error => rfl
        | ok s => exact ih s
      · rw [ListRequest.values_cons_of_ne hf, takeItem_other s value hq hf, pure_bind, ih]

theorem foldlM_takeFilter_empty (filter : Option String) :
    filter.toList.foldlM takeFilter empty =
      if filter.any fun text => (Json.read? text).isNone then throw .notJson
      else pure ⟨none, (filter.bind Json.read?).filter fun value => !asksNothing value, .lenient⟩ := by
  cases filter with
  | none => rfl
  | some text =>
    rw [Option.toList_some, List.foldlM_cons, takeFilter, Option.any_some, Option.bind_some]
    cases Json.read? text with
    | none => rfl
    | some value =>
      change Except.ok (empty.setCriteria value) = _
      rw [setCriteria]
      cases hnothing : asksNothing value <;> simp [hnothing, empty, Option.filter, pure, Except.pure]

theorem foldl_setText (text : Option String) (criteria : Option Json) (policy : Policy) :
    text.toList.foldl setText ⟨none, criteria, policy⟩ =
      ⟨text.filter fun text => !Text.isBlankText text, criteria, policy⟩ := by
  cases text with
  | none => rfl
  | some text =>
    rw [Option.toList_some, List.foldl_cons, List.foldl_nil, setText]
    cases hblank : Text.isBlankText text <;> simp [hblank, Option.filter]

/-- All that a selection of items holds, or why there is none, is told by the values of `q` and `filter`. -/
theorem ofItems_eq (items : List (String × String)) :
    ofItems items =
      if 1 < (ListRequest.values ⟨items⟩ "q").length then throw (.repeatedParameter "q")
      else if 1 < (ListRequest.values ⟨items⟩ "filter").length then throw (.repeatedParameter "filter")
      else if (ListRequest.get? ⟨items⟩ "filter").any fun text => (Json.read? text).isNone then throw .notJson
      else pure {
        text := (ListRequest.get? ⟨items⟩ "q").filter fun text => !Text.isBlankText text
        criteria := ((ListRequest.get? ⟨items⟩ "filter").bind Json.read?).filter fun value => !asksNothing value
        policy := .lenient } := by
  rw [ofItems, ListRequest.count_eq_length_values, ListRequest.count_eq_length_values, foldlM_takeItem]
  by_cases hq : 1 < (ListRequest.values ⟨items⟩ "q").length
  · rw [if_pos hq, if_pos hq]
    rfl
  · rw [if_neg hq, if_neg hq]
    by_cases hf : 1 < (ListRequest.values ⟨items⟩ "filter").length
    · rw [if_pos hf, if_pos hf]
      rfl
    · rw [if_neg hf, if_neg hf, ListRequest.values_eq_toList hq, ListRequest.values_eq_toList hf,
        foldlM_takeFilter_empty]
      by_cases hread : (ListRequest.get? ⟨items⟩ "filter").any fun text => (Json.read? text).isNone
      · rw [if_pos hread, if_pos hread]
        rfl
      · rw [if_neg hread, if_neg hread]
        exact congrArg Except.ok (foldl_setText _ _ _)

theorem eq_of_ofItems {items : List (String × String)} {s : Selection} (h : ofItems items = .ok s) :
    s = {
      text := (ListRequest.get? ⟨items⟩ "q").filter fun text => !Text.isBlankText text
      criteria := ((ListRequest.get? ⟨items⟩ "filter").bind Json.read?).filter fun value => !asksNothing value
      policy := .lenient } := by
  rw [ofItems_eq] at h
  repeat' split at h
  all_goals cases h
  rfl

end Selection

end CatalogSearch
