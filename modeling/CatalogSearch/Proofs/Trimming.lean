import CatalogSearch.Text.Blank
/-!
What trimming leaves of a text. The main statements are `trim_pad` and `exists_pad_trim`: a text without blanks
at its ends is what is left of it with blanks around it, and every text is such a one with blanks around it.
-/
namespace CatalogSearch.Text

structure Trimmed (s : List Char) : Prop where
  head : ∀ c ∈ s.head?, isBlank c = false
  last : ∀ c ∈ s.getLast?, isBlank c = false

theorem trimmed_of_forall {s : List Char} (h : ∀ c ∈ s, isBlank c = false) : Trimmed s :=
  ⟨fun c hc => h c (List.mem_of_head? hc), fun c hc => h c (List.mem_of_getLast? hc)⟩

theorem trimLeft_eq_self {s : List Char} (h : ∀ c ∈ s.head?, isBlank c = false) : trimLeft s = s := by
  cases s with
  | nil => rfl
  | cons c rest =>
    have hc : isBlank c = false := h c rfl
    exact List.dropWhile_cons_of_neg (by simp [hc])

theorem trimRight_eq_self {s : List Char} (h : ∀ c ∈ s.getLast?, isBlank c = false) : trimRight s = s := by
  have hreverse : trimLeft s.reverse = s.reverse := by
    apply trimLeft_eq_self
    rwa [List.head?_reverse]
  rw [trimRight, ← trimLeft, hreverse, List.reverse_reverse]

theorem trimLeft_append {before : List Char} (h : before.all isBlank = true) (s : List Char) :
    trimLeft (before ++ s) = trimLeft s :=
  List.dropWhile_append_of_pos (List.all_eq_true.1 h)

theorem trimRight_append {after : List Char} (h : after.all isBlank = true) (s : List Char) :
    trimRight (s ++ after) = trimRight s := by
  rw [← List.all_reverse] at h
  rw [trimRight, List.reverse_append, ← trimLeft, trimLeft_append h, trimRight, trimLeft]

/-- Blanks around a text are trimmed away, and nothing else. -/
theorem trim_pad {before s after : List Char} (hbefore : before.all isBlank = true) (hs : Trimmed s)
    (hafter : after.all isBlank = true) : trim (before ++ s ++ after) = s := by
  by_cases hnil : s = []
  · subst hnil
    rw [trim_eq_nil_iff, List.append_nil, List.all_append, hbefore, hafter, Bool.and_self]
  · have hhead : ∀ c ∈ (s ++ after).head?, isBlank c = false := by
      obtain ⟨c, rest, rfl⟩ := List.exists_cons_of_ne_nil hnil
      exact hs.head
    rw [trim, List.append_assoc, trimLeft_append hbefore, trimLeft_eq_self hhead, trimRight_append hafter,
      trimRight_eq_self hs.last]

theorem exists_trimLeft (s : List Char) : ∃ before, before.all isBlank = true ∧ s = before ++ trimLeft s :=
  ⟨s.takeWhile isBlank, List.all_takeWhile, List.takeWhile_append_dropWhile.symm⟩

theorem exists_trimRight (s : List Char) : ∃ after, after.all isBlank = true ∧ s = trimRight s ++ after := by
  obtain ⟨before, hbefore, hs⟩ := exists_trimLeft s.reverse
  refine ⟨before.reverse, by rwa [List.all_reverse], ?_⟩
  have hreverse := congrArg List.reverse hs
  rwa [List.reverse_reverse, List.reverse_append] at hreverse

theorem exists_pad_trim (s : List Char) :
    ∃ before after, before.all isBlank = true ∧ after.all isBlank = true ∧ s = before ++ trim s ++ after := by
  obtain ⟨before, hbefore, hleft⟩ := exists_trimLeft s
  obtain ⟨after, hafter, hright⟩ := exists_trimRight (trimLeft s)
  refine ⟨before, after, hbefore, hafter, ?_⟩
  rw [List.append_assoc, trim, ← hright, ← hleft]

theorem mem_of_mem_trim {s : List Char} {c : Char} (h : c ∈ trim s) : c ∈ s := by
  obtain ⟨before, after, -, -, hs⟩ := exists_pad_trim s
  rw [hs]
  exact List.mem_append_left after (List.mem_append_right before h)

theorem trimmed_trim (s : List Char) : Trimmed (trim s) := by
  refine ⟨fun c hc => ?_, fun c hc => isBlank_of_getLast?_trim hc⟩
  obtain ⟨after, -, hright⟩ := exists_trimRight (trimLeft s)
  have hhead : (trimLeft s).head? = some c := by
    rw [hright, List.head?_append, ← trim, hc]
    rfl
  have hnot := List.head?_dropWhile_not isBlank s
  rw [← trimLeft, hhead] at hnot
  simpa using hnot

end CatalogSearch.Text
