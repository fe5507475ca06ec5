/-!
Blank characters: the twenty-five code points of the Unicode property White_Space, and trimming by them.
-/
namespace CatalogSearch.Text

/-- White_Space: five controls, U+0085 and every space, line and paragraph separator.
U+001C to U+001F, U+180E, U+200B and U+FEFF are not blank. -/
def isBlank (c : Char) : Bool :=
  let n := c.toNat
  (0x09 ≤ n && n ≤ 0x0D) || n == 0x20 || n == 0x85 || n == 0xA0 || n == 0x1680
    || (0x2000 ≤ n && n ≤ 0x200A) || n == 0x2028 || n == 0x2029 || n == 0x202F
    || n == 0x205F || n == 0x3000

def isSpace (c : Char) : Bool := c == ' ' || c == '\t'

def trimLeft (s : List Char) : List Char := s.dropWhile isBlank

def trimRight (s : List Char) : List Char := (s.reverse.dropWhile isBlank).reverse

def trim (s : List Char) : List Char := trimRight (trimLeft s)

def isBlankText (s : String) : Bool := s.toList.all isBlank

theorem trimLeft_eq_nil_iff {s : List Char} : trimLeft s = [] ↔ s.all isBlank = true := by
  induction s with
  | nil => simp [trimLeft]
  | cons c rest ih =>
    rw [trimLeft] at ih ⊢
    by_cases hc : isBlank c = true
    · rw [List.dropWhile_cons_of_pos hc, ih, List.all_cons, hc, Bool.true_and]
    · simp [hc]

theorem trimRight_eq_nil_iff {s : List Char} : trimRight s = [] ↔ s.all isBlank = true := by
  rw [trimRight, List.reverse_eq_nil_iff, ← trimLeft, trimLeft_eq_nil_iff, List.all_reverse]

theorem trim_eq_nil_iff {s : List Char} : trim s = [] ↔ s.all isBlank = true := by
  rw [trim, trimRight_eq_nil_iff]
  constructor
  · intro h
    cases hs : trimLeft s with
    | nil => exact trimLeft_eq_nil_iff.1 hs
    | cons c rest =>
      have hc : isBlank c = false := by
        have := List.head?_dropWhile_not isBlank s
        rw [show s.dropWhile isBlank = c :: rest from hs] at this
        simpa using this
      simp [hs, hc] at h
  · intro h
    simp [trimLeft_eq_nil_iff.2 h]

theorem isBlank_of_getLast?_trim {s : List Char} {c : Char} (h : (trim s).getLast? = some c) :
    isBlank c = false := by
  have hhead := List.head?_dropWhile_not isBlank (trimLeft s).reverse
  rw [trim, trimRight, List.getLast?_reverse] at h
  rw [h] at hhead
  simpa using hhead

theorem eq_nil_of_trim_eq_cons {s rest : List Char} {c : Char} (h : trim s = c :: rest)
    (hrest : trim rest = []) : rest = [] := by
  rcases List.eq_nil_or_concat rest with hnil | ⟨init, last, rfl⟩
  · exact hnil
  · have hlast : isBlank last = false := by
      refine isBlank_of_getLast?_trim (s := s) ?_
      rw [h, List.concat_eq_append, ← List.cons_append, List.getLast?_concat]
    have hall := List.all_eq_true.1 (trim_eq_nil_iff.1 hrest) last (by simp)
    simp [hlast] at hall

end CatalogSearch.Text
