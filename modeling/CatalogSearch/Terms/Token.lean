import CatalogSearch.Text.Blank
/-!
Tokens of a query text: its words, parted by blanks. Quotes may start and end anywhere in a word; inside
them blanks belong to the word, and a backslash makes the next character literal. Quotes left open run to
the end, and empty quotes are an empty token.
-/
namespace CatalogSearch.Token

/-- The text after an opening quote, up to the closing one, and what follows that. -/
def quotedPart : List Char → List Char × List Char
  | [] => ([], [])
  | '"' :: rest => ([], rest)
  | '\\' :: [] => ([], [])
  | '\\' :: c :: rest => (quotedPart rest).map (c :: ·) id
  | c :: rest => (quotedPart rest).map (c :: ·) id

theorem quotedPart_length (s : List Char) : (quotedPart s).2.length ≤ s.length := by
  fun_induction quotedPart s <;> simp_all <;> omega

def word : List Char → List Char × List Char
  | [] => ([], [])
  | c :: rest =>
    if Text.isBlank c then ([], c :: rest)
    else if c = '"' then
      (word (quotedPart rest).2).map ((quotedPart rest).1 ++ ·) id
    else (word rest).map (c :: ·) id
termination_by s => s.length
decreasing_by
  · have := quotedPart_length rest
    simp only [List.length_cons]
    omega
  · simp

theorem word_blank {c : Char} (h : Text.isBlank c = true) (rest : List Char) :
    word (c :: rest) = ([], c :: rest) := by
  rw [word, if_pos h]

theorem word_quote (rest : List Char) :
    word ('"' :: rest) =
      ((quotedPart rest).1 ++ (word (quotedPart rest).2).1, (word (quotedPart rest).2).2) := by
  rw [word, if_neg (by decide), if_pos rfl]
  rfl

theorem word_char {c : Char} (h : ¬ Text.isBlank c = true) (hquote : c ≠ '"') (rest : List Char) :
    word (c :: rest) = (c :: (word rest).1, (word rest).2) := by
  rw [word, if_neg h, if_neg hquote]
  rfl

theorem word_length_le (s : List Char) : (word s).2.length ≤ s.length := by
  fun_induction word s with
  | case1 => simp
  | case2 => simp
  | case3 rest _ ih =>
    have := quotedPart_length rest
    simp only [Prod.map_snd, id_eq, List.length_cons]
    omega
  | case4 c rest _ _ ih =>
    simp only [Prod.map_snd, id_eq, List.length_cons]
    omega

theorem word_length_lt {c : Char} (rest : List Char) (h : Text.isBlank c = false) :
    (word (c :: rest)).2.length < (c :: rest).length := by
  rw [word.eq_def]
  simp only [h, Bool.false_eq_true, if_false]
  split
  · have := quotedPart_length rest
    have := word_length_le (quotedPart rest).2
    simp only [Prod.map_snd, id_eq, List.length_cons]
    omega
  · have := word_length_le rest
    simp only [Prod.map_snd, id_eq, List.length_cons]
    omega

def tokens : List Char → List (List Char)
  | [] => []
  | c :: rest =>
    if _h : Text.isBlank c = true then tokens rest
    else (word (c :: rest)).1 :: tokens (word (c :: rest)).2
termination_by s => s.length
decreasing_by
  · simp
  · exact word_length_lt rest (by simpa using _h)

theorem tokens_blank {c : Char} (h : Text.isBlank c = true) (rest : List Char) :
    tokens (c :: rest) = tokens rest := by
  rw [tokens, dif_pos h]

theorem tokens_word {c : Char} (h : ¬ Text.isBlank c = true) (rest : List Char) :
    tokens (c :: rest) = (word (c :: rest)).1 :: tokens (word (c :: rest)).2 := by
  rw [tokens, dif_neg h]

theorem tokens_blanks_append {blanks : List Char} (h : blanks.all Text.isBlank = true) (rest : List Char) :
    tokens (blanks ++ rest) = tokens rest := by
  induction blanks with
  | nil => rfl
  | cons c blanks ih =>
    rw [List.all_cons, Bool.and_eq_true] at h
    rw [List.cons_append, tokens_blank h.1, ih h.2]

theorem tokens_eq_nil {cs : List Char} (h : cs.all Text.isBlank = true) : tokens cs = [] := by
  have hblanks := tokens_blanks_append h []
  rwa [List.append_nil, tokens] at hblanks

def tokenize (text : String) : List String := (tokens text.toList).map String.ofList

end CatalogSearch.Token
