import CatalogSearch.Proofs.Parameters
import CatalogSearch.Proofs.Unfiltered
import Mathlib.Data.List.Induction
/-!
Selections that are set up step by step. The main statement is `run_holds_last`: whatever steps were taken, a
selection holds the text, the value and the policy that were set last, as far as there is anything in them; it is
active where it holds a text or a value; and compiling it fails for the value alone.
-/
namespace CatalogSearch

namespace Token

theorem tokens_eq_nil_iff {cs : List Char} : tokens cs = [] ↔ cs.all Text.isBlank = true := by
  constructor
  · intro h
    induction cs with
    | nil => rfl
    | cons c rest ih =>
      by_cases hblank : Text.isBlank c = true
      · rw [tokens_blank hblank] at h
        rw [List.all_cons, hblank, ih h, Bool.true_and]
      · rw [tokens_word hblank] at h
        exact absurd h (List.cons_ne_nil _ _)
  · exact tokens_eq_nil

theorem tokenize_eq_nil_iff {text : String} : tokenize text = [] ↔ Text.isBlankText text = true := by
  rw [tokenize, List.map_eq_nil_iff, Text.isBlankText]
  exact tokens_eq_nil_iff

end Token

namespace Selection

/-- What may be done with a selection. Compiling only looks at it. -/
inductive Step where
  | text (text : String)
  | criteria (value : Json)
  | policy (policy : Policy)
  | compile (fields : List String)

def step (s : Selection) : Step → Selection
  | .text text => s.setText text
  | .criteria value => s.setCriteria value
  | .policy policy => s.withPolicy policy
  | .compile _ => s

def run (steps : List Step) : Selection := steps.foldl step empty

namespace Step

def text? : Step → Option String
  | .text given => some given
  | _ => none

def criteria? : Step → Option Json
  | .criteria given => some given
  | _ => none

def policy? : Step → Option Policy
  | .policy given => some given
  | _ => none

def ofItem? (item : String × String) : Option Step :=
  if item.1 = "q" then some (.text item.2)
  else if item.1 = "filter" then (Json.read? item.2).map .criteria
  else none

end Step

def last? {α : Type} (set? : Step → Option α) (steps : List Step) : Option α := (steps.filterMap set?).getLast?

theorem last?_append {α : Type} (set? : Step → Option α) (steps : List Step) (x : Step) :
    last? set? (steps ++ [x]) = (set? x).or (last? set? steps) := by
  rw [last?, last?, List.filterMap_append, List.getLast?_append, List.filterMap_cons]
  cases set? x <;> rfl

/-- A selection that holds the last text, unless that has no token, the last value, unless that is null or an
empty list, and the last policy. -/
structure HoldsLast (steps : List Step) (s : Selection) : Prop where
  text : ∀ text, s.text = some text ↔ last? Step.text? steps = some text ∧ Token.tokenize text ≠ []
  criteria : ∀ v, s.criteria = some v ↔ last? Step.criteria? steps = some v ∧ v ≠ .null ∧ v ≠ .array []
  policy : s.policy = (last? Step.policy? steps).getD .lenient

theorem text_setText (s : Selection) (given text : String) :
    (s.setText given).text = some text ↔ given = text ∧ Token.tokenize text ≠ [] := by
  rw [setText, Ne, Token.tokenize_eq_nil_iff]
  by_cases hblank : Text.isBlankText given = true
  · simp only [hblank, if_true, reduceCtorEq, false_iff, not_and, not_not]
    intro hsame
    rw [← hsame, hblank]
  · simp only [hblank, Bool.false_eq_true, if_false, Option.some.injEq]
    constructor
    · intro hsame
      rw [← hsame]
      exact ⟨rfl, hblank⟩
    · exact And.left

theorem asksNothing_iff {v : Json} : asksNothing v = true ↔ v = .null ∨ v = .array [] := by
  fun_cases asksNothing v <;> simp_all

theorem criteria_setCriteria (s : Selection) (given v : Json) :
    (s.setCriteria given).criteria = some v ↔ given = v ∧ v ≠ .null ∧ v ≠ .array [] := by
  rw [setCriteria, ← not_or, ← asksNothing_iff]
  by_cases hnothing : asksNothing given = true
  · simp only [hnothing, if_true, reduceCtorEq, false_iff, not_and, not_not]
    intro hsame
    rw [← hsame, hnothing]
  · simp only [hnothing, Bool.false_eq_true, if_false, Option.some.injEq]
    constructor
    · intro hsame
      rw [← hsame]
      exact ⟨rfl, hnothing⟩
    · exact And.left

namespace HoldsLast
variable {steps : List Step} {s : Selection}

theorem step (h : HoldsLast steps s) (x : Step) : HoldsLast (steps ++ [x]) (s.step x) := by
  constructor <;> simp only [last?_append]
  case text =>
    cases x with
    | text given => simpa [Step.text?, Selection.step] using s.text_setText given
    | _ => exact h.text
  case criteria =>
    cases x with
    | criteria given => simpa [Step.criteria?, Selection.step] using s.criteria_setCriteria given
    | _ => exact h.criteria
  case policy =>
    cases x with
    | policy given => rfl
    | _ => exact h.policy

theorem unique {steps' : List Step} {s' : Selection} (h : HoldsLast steps s) (h' : HoldsLast steps' s')
    (htext : last? Step.text? steps = last? Step.text? steps')
    (hcriteria : last? Step.criteria? steps = last? Step.criteria? steps')
    (hpolicy : last? Step.policy? steps = last? Step.policy? steps') : s = s' := by
  have hsame : s.text = s'.text := Option.ext fun text => by rw [h.text, h'.text, htext]
  have hvalue : s.criteria = s'.criteria := Option.ext fun v => by rw [h.criteria, h'.criteria, hcriteria]
  have hpolicies : s.policy = s'.policy := by rw [h.policy, h'.policy, hpolicy]
  cases s
  cases s'
  simp_all

end HoldsLast

theorem run_append (steps : List Step) (x : Step) : run (steps ++ [x]) = (run steps).step x := by
  rw [run, run, List.foldl_append]
  rfl

theorem holdsLast_run (steps : List Step) : HoldsLast steps (run steps) := by
  induction steps using List.reverseRecOn with
  | nil => exact ⟨by simp [run, empty, last?], by simp [run, empty, last?], rfl⟩
  | append_singleton steps x ih =>
    rw [run_append]
    exact ih.step x

theorem run_compile (before after : List Step) (fields : List String) :
    run (before ++ .compile fields :: after) = run (before ++ after) := by
  rw [run, run, List.foldl_append, List.foldl_append]
  rfl

/-! Compiling -/

theorem isActive_iff {s : Selection} :
    s.isActive = true ↔ (∃ text, s.text = some text) ∨ ∃ v, s.criteria = some v := by
  rw [isActive, Bool.or_eq_true, Option.isSome_iff_exists, Option.isSome_iff_exists]

theorem compile_of_inactive {s : Selection} (h : s.isActive = false) (policy : Policy) (fields : List String) :
    (s.withPolicy policy).compile fields = .ok none := by
  obtain ⟨text, criteria, held⟩ := s
  cases text with
  | some text => cases h
  | none =>
    cases criteria with
    | some v => cases h
    | none => rfl

theorem compile_eq_error_iff {s : Selection} {fields : List String} {error : FilterError} :
    s.compile fields = .error error ↔
      s.policy = .strict ∧ ∃ v, s.criteria = some v ∧ Criteria.filter? .strict v = .error error := by
  rw [compile, Except.bind_eq_error_iff, criteriaFilter]
  have hpure (structured : Option Filter) :
      (pure ((Filter.combine [s.textFilter fields, structured]).map Filter.simplify) :
        Except FilterError (Option Filter)) ≠ .error error := by
    intro h
    cases h
  simp only [hpure, and_false, exists_false, or_false]
  cases hcriteria : s.criteria with
  | none => simp [pure, Except.pure]
  | some v =>
    cases hpolicy : s.policy with
    | lenient => simp [Criteria.filter?_lenient]
    | strict => simp

/-! Request items -/

section Items
variable {items : List (String × String)} {s : Selection}

theorem takeItem_eq_ok {s' : Selection} {item : String × String} (h : s.takeItem item = .ok s') :
    s' = (Step.ofItem? item).toList.foldl step s := by
  obtain ⟨key, value⟩ := item
  by_cases hq : key = "q"
  · subst hq
    rw [takeItem_q] at h
    cases h
    rfl
  · by_cases hfilter : key = "filter"
    · subst hfilter
      rw [takeItem_filter, takeFilter] at h
      rw [Step.ofItem?, if_neg hq, if_pos rfl]
      cases hread : Json.read? value with
      | none =>
        rw [hread] at h
        cases h
      | some v =>
        rw [hread] at h
        cases h
        rfl
    · rw [takeItem_other s value hq hfilter] at h
      cases h
      rw [Step.ofItem?, if_neg hq, if_neg hfilter]
      rfl

theorem foldlM_takeItem_eq_ok {start : Selection} (h : items.foldlM takeItem start = .ok s) :
    s = (items.filterMap Step.ofItem?).foldl step start := by
  induction items generalizing start with
  | nil =>
    cases h
    rfl
  | cons item rest ih =>
    rw [List.foldlM_cons, Except.bind_eq_ok_iff] at h
    obtain ⟨next, hnext, hrest⟩ := h
    rw [ih hrest, takeItem_eq_ok hnext, List.filterMap_cons]
    cases Step.ofItem? item <;> rfl

theorem ofItems_eq_ok_iff :
    ofItems items = .ok s ↔ ¬ 1 < count "q" items ∧ ¬ 1 < count "filter" items ∧
      items.foldlM takeItem empty = .ok s := by
  rw [ofItems]
  by_cases hq : 1 < count "q" items
  · rw [if_pos hq]
    simp [hq, bind, Except.bind, throw, throwThe, MonadExceptOf.throw]
  · rw [if_neg hq]
    by_cases hfilter : 1 < count "filter" items
    · rw [if_pos hfilter]
      simp [hfilter, bind, Except.bind, throw, throwThe, MonadExceptOf.throw]
    · rw [if_neg hfilter]
      simp [hq, hfilter]

theorem filterMap_text?_ofItem? (items : List (String × String)) :
    (items.filterMap Step.ofItem?).filterMap Step.text? = ListRequest.values ⟨items⟩ "q" := by
  rw [List.filterMap_filterMap, ListRequest.values]
  apply List.filterMap_congr
  intro item _
  rw [Step.ofItem?]
  by_cases hq : item.1 = "q"
  · simp [hq, Step.text?]
  · by_cases hfilter : item.1 = "filter"
    · cases Json.read? item.2 <;> simp [hfilter, Step.text?]
    · simp [hq, hfilter]

theorem filterMap_criteria?_ofItem? (items : List (String × String)) :
    (items.filterMap Step.ofItem?).filterMap Step.criteria? =
      (ListRequest.values ⟨items⟩ "filter").filterMap Json.read? := by
  rw [List.filterMap_filterMap, ListRequest.values, List.filterMap_filterMap]
  apply List.filterMap_congr
  intro item _
  rw [Step.ofItem?]
  by_cases hq : item.1 = "q"
  · simp [hq, Step.criteria?]
  · by_cases hfilter : item.1 = "filter"
    · cases hread : Json.read? item.2 <;> simp [hfilter, hread, Step.criteria?]
    · simp [hq, hfilter]

theorem filterMap_policy?_ofItem? (items : List (String × String)) :
    (items.filterMap Step.ofItem?).filterMap Step.policy? = [] := by
  rw [List.filterMap_eq_nil_iff]
  intro x hx
  obtain ⟨item, -, hitem⟩ := List.mem_filterMap.1 hx
  rw [Step.ofItem?] at hitem
  by_cases hq : item.1 = "q"
  · rw [if_pos hq] at hitem
    cases hitem
    rfl
  · rw [if_neg hq] at hitem
    by_cases hfilter : item.1 = "filter"
    · rw [if_pos hfilter] at hitem
      obtain ⟨v, -, hv⟩ := Option.map_eq_some_iff.1 hitem
      rw [← hv]
      rfl
    · rw [if_neg hfilter] at hitem
      cases hitem

theorem last?_eq_of_perm {α : Type} (set? : Step → Option α) {steps steps' : List Step}
    (h : steps.Perm steps') (honce : ¬ 1 < (steps.filterMap set?).length) :
    last? set? steps = last? set? steps' := by
  rw [last?, last?, eq_of_perm_of_length (h.filterMap set?) honce]

/-- Where items are accepted, their texts and filters may be set in any order. -/
theorem run_of_perm (h : ofItems items = .ok s) {steps : List Step}
    (hperm : (items.filterMap Step.ofItem?).Perm steps) : run steps = s := by
  obtain ⟨hq, hfilter, hfold⟩ := ofItems_eq_ok_iff.1 h
  rw [ListRequest.count_eq_length_values] at hq hfilter
  have hrun : s = run (items.filterMap Step.ofItem?) := foldlM_takeItem_eq_ok hfold
  rw [hrun]
  have htext := last?_eq_of_perm Step.text? hperm (by rwa [filterMap_text?_ofItem?])
  have hcriteria := last?_eq_of_perm Step.criteria? hperm (by
    rw [filterMap_criteria?_ofItem?]
    have hle := List.length_filterMap_le Json.read? (ListRequest.values ⟨items⟩ "filter")
    omega)
  have hpolicy := last?_eq_of_perm Step.policy? hperm (by
    rw [filterMap_policy?_ofItem?]
    simp)
  exact (holdsLast_run steps).unique (holdsLast_run _) htext.symm hcriteria.symm hpolicy.symm

end Items

/-- After any steps a selection holds what was set last, and compiling makes no difference to it. It is active
where it holds something, has no filter where it does not, and cannot be compiled exactly where the policy set last
is strict and strict parsing refuses the value held. A selection of request items is what setting its text and its
filter, in any order, comes to. -/
theorem run_holds_last (steps : List Step) :
    HoldsLast steps (run steps) ∧
    (∀ before fields after, steps = before ++ .compile fields :: after → run steps = run (before ++ after)) ∧
    ((run steps).isActive = true ↔
      (∃ text, (run steps).text = some text) ∨ ∃ v, (run steps).criteria = some v) ∧
    ((run steps).isActive = false →
      ∀ policy fields, ((run steps).withPolicy policy).compile fields = .ok none) ∧
    (∀ fields error, (run steps).compile fields = .error error ↔
      last? Step.policy? steps = some .strict ∧
        ∃ v, (run steps).criteria = some v ∧ Criteria.filter? .strict v = .error error) ∧
    ∀ items s, ofItems items = .ok s → (items.filterMap Step.ofItem?).Perm steps → run steps = s := by
  refine ⟨holdsLast_run steps, ?compiling, isActive_iff, compile_of_inactive, ?fails, ?items⟩
  case compiling =>
    intro before fields after h
    rw [h]
    exact run_compile before after fields
  case fails =>
    intro fields error
    have hpolicy : (run steps).policy = .strict ↔ last? Step.policy? steps = some .strict := by
      rw [(holdsLast_run steps).policy]
      cases last? Step.policy? steps <;> simp
    rw [compile_eq_error_iff, hpolicy]
  case items =>
    intro items s h hperm
    exact run_of_perm h hperm

def oldProbesSteps : List Step :=
  [.text "probe OR \"old one\"", .criteria (.array [.object [("contacts.id", .null)]])]

def blankedSteps : List Step :=
  oldProbesSteps ++ [.compile ["label"], .policy .strict, .criteria (.array [.null]), .text " \u3000"]

theorem run_holds_last_oldProbes :
    ofItems Catalog.oldProbes.items = .ok Catalog.oldProbesSelection ∧
      run oldProbesSteps = Catalog.oldProbesSelection ∧
      (run [.text " \u3000"]).isActive = false ∧
      (∀ policy fields, ((run [.text " \u3000"]).withPolicy policy).compile fields = .ok none) ∧
      (run blankedSteps).compile ["label"] = .error (.malformed .notAnObject .null) := by
  have hitems : ofItems Catalog.oldProbes.items = .ok Catalog.oldProbesSelection :=
    ServiceError.liftFilter_eq_ok_iff.1 Catalog.selection_oldProbes
  have hread : Json.read? "[\x7b\"contacts.id\": null\x7d]" =
      some (.array [.object [("contacts.id", .null)]]) := by cbv
  have hfilter : Step.ofItem? ("filter", "[\x7b\"contacts.id\": null\x7d]") =
      some (.criteria (.array [.object [("contacts.id", .null)]])) := by
    rw [Step.ofItem?, if_neg (by decide), if_pos rfl, hread]
    rfl
  have hsteps : (Catalog.oldProbes.items.filterMap Step.ofItem?).Perm oldProbesSteps := by
    rw [Catalog.oldProbes, List.filterMap_cons, hfilter]
    exact List.Perm.swap _ _ _
  have hrefused : Criteria.filter? .strict (.array [.null]) = .error (.malformed .notAnObject .null) := by
    have hnull : Criterion.ofJson .null = .malformed .notAnObject .null := Criterion.ofJson_malformed rfl
    rw [Criteria.filter?, Criteria.elements, List.map_singleton, hnull]
    rfl
  obtain ⟨-, -, -, hnone, -, -⟩ := run_holds_last [.text " \u3000"]
  obtain ⟨-, -, -, -, hfails, -⟩ := run_holds_last blankedSteps
  refine ⟨hitems, (run_holds_last oldProbesSteps).2.2.2.2.2 _ _ hitems hsteps, rfl, hnone rfl, ?_⟩
  exact (hfails ["label"] _).2 ⟨rfl, _, rfl, hrefused⟩

end Selection
end CatalogSearch
