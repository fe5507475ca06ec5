import CatalogSearch.Terms.Token
/-!
The tokens of a query text found in one pass, one character at a time. The main statement is `tokenize_scans`:
cutting a text word by word gives what the scan gives, and of the text nothing is missing from the tokens but
the blanks between them, the quote marks and the backslashes that escape.
-/
namespace CatalogSearch.Token

/-- Where a scan stands: between two tokens, or in one of which some characters are read. -/
inductive Place where
  | gap
  | word (token : List Char)
  | quoted (token : List Char)
  | escaped (token : List Char)
deriving DecidableEq, Repr

structure Scan where
  found : List (List Char)
  place : Place
deriving DecidableEq, Repr

namespace Scan

def start : Scan := ⟨[], .gap⟩

def step : Scan → Char → Scan
  | ⟨found, .gap⟩, c =>
    if Text.isBlank c then ⟨found, .gap⟩
    else if c = '"' then ⟨found, .quoted []⟩
    else ⟨found, .word [c]⟩
  | ⟨found, .word token⟩, c =>
    if Text.isBlank c then ⟨found ++ [token], .gap⟩
    else if c = '"' then ⟨found, .quoted token⟩
    else ⟨found, .word (token ++ [c])⟩
  | ⟨found, .quoted token⟩, c =>
    if c = '"' then ⟨found, .word token⟩
    else if c = '\\' then ⟨found, .escaped token⟩
    else ⟨found, .quoted (token ++ [c])⟩
  | ⟨found, .escaped token⟩, c => ⟨found, .quoted (token ++ [c])⟩

def run (s : Scan) (cs : List Char) : Scan := cs.foldl step s

def tokens : Scan → List (List Char)
  | ⟨found, .gap⟩ => found
  | ⟨found, .word token⟩ => found ++ [token]
  | ⟨found, .quoted token⟩ => found ++ [token]
  | ⟨found, .escaped token⟩ => found ++ [token]

theorem run_cons (s : Scan) (c : Char) (rest : List Char) : s.run (c :: rest) = (s.step c).run rest := rfl

theorem step_gap {c : Char} (h : ¬ Text.isBlank c = true) (found : List (List Char)) :
    step ⟨found, .gap⟩ c = step ⟨found, .word []⟩ c := by
  simp only [step, if_neg h, List.nil_append]

theorem tokens_run_quoted (found : List (List Char)) (token cs : List Char) :
    (run ⟨found, .quoted token⟩ cs).tokens =
      (run ⟨found, .word (token ++ (quotedPart cs).1)⟩ (quotedPart cs).2).tokens := by
  fun_induction quotedPart cs generalizing token with
  | case1 => rw [List.append_nil]; rfl
  | case2 rest => rw [List.append_nil]; rfl
  | case3 => rw [List.append_nil]; rfl
  | case4 c rest ih =>
    have hescape : step ⟨found, .quoted token⟩ '\\' = ⟨found, .escaped token⟩ := rfl
    have hliteral : step ⟨found, .escaped token⟩ c = ⟨found, .quoted (token ++ [c])⟩ := rfl
    rw [run_cons, run_cons, hescape, hliteral, ih, List.append_assoc]
    rfl
  | case5 c rest hquote hlast hescape ih =>
    have hbackslash : c ≠ '\\' := by
      rintro rfl
      cases rest with
      | nil => exact hlast rfl rfl
      | cons d rest => exact hescape d rest rfl rfl
    have hinside : step ⟨found, .quoted token⟩ c = ⟨found, .quoted (token ++ [c])⟩ := by
      simp only [step, if_neg hquote, if_neg hbackslash]
    rw [run_cons, hinside, ih, List.append_assoc]
    rfl

theorem tokens_run_word (found : List (List Char)) (token cs : List Char) :
    (run ⟨found, .word token⟩ cs).tokens =
      (run ⟨found ++ [token ++ (word cs).1], .gap⟩ (word cs).2).tokens := by
  fun_induction word cs generalizing token with
  | case1 => rw [List.append_nil]; rfl
  | case2 c rest hblank =>
    have hend : step ⟨found, .word token⟩ c = ⟨found ++ [token], .gap⟩ := by
      simp only [step, if_pos hblank]
    have hgap : step ⟨found ++ [token], .gap⟩ c = ⟨found ++ [token], .gap⟩ := by
      simp only [step, if_pos hblank]
    rw [List.append_nil, run_cons, run_cons, hend, hgap]
  | case3 rest hblank ih =>
    have hopen : step ⟨found, .word token⟩ '"' = ⟨found, .quoted token⟩ := by
      simp only [step, if_neg hblank, if_true]
    rw [run_cons, hopen, tokens_run_quoted, ih, List.append_assoc]
    rfl
  | case4 c rest hblank hquote ih =>
    have hinside : step ⟨found, .word token⟩ c = ⟨found, .word (token ++ [c])⟩ := by
      simp only [step, if_neg hblank, if_neg hquote]
    rw [run_cons, hinside, ih, List.append_assoc]
    rfl

theorem tokens_run_gap (found : List (List Char)) (cs : List Char) :
    (run ⟨found, .gap⟩ cs).tokens = found ++ Token.tokens cs := by
  fun_induction Token.tokens cs generalizing found with
  | case1 => rw [List.append_nil]; rfl
  | case2 c rest hblank ih =>
    have hgap : step ⟨found, .gap⟩ c = ⟨found, .gap⟩ := by
      simp only [step, if_pos hblank]
    rw [run_cons, hgap, ih]
  | case3 c rest hblank ih =>
    rw [run_cons, step_gap hblank, ← run_cons, tokens_run_word, ih, List.nil_append, List.append_assoc]
    rfl

/-- Whether a character is text where it stands: no blank between tokens, no quote mark and no backslash that
escapes. -/
def isText : Scan → Char → Bool
  | ⟨_, .gap⟩, c => !Text.isBlank c && c != '"'
  | ⟨_, .word _⟩, c => !Text.isBlank c && c != '"'
  | ⟨_, .quoted _⟩, c => c != '"' && c != '\\'
  | ⟨_, .escaped _⟩, _ => true

def text (s : Scan) : List Char → List Char
  | [] => []
  | c :: rest => (if s.isText c then [c] else []) ++ (s.step c).text rest

theorem flatten_tokens_step (s : Scan) (c : Char) :
    (s.step c).tokens.flatten = s.tokens.flatten ++ if s.isText c then [c] else [] := by
  have hmark : Text.isBlank '"' = false := by decide
  obtain ⟨found, place⟩ := s
  by_cases hquote : c = '"'
  · subst hquote
    cases place <;> simp [step, tokens, isText, hmark]
  · cases place with
    | gap => by_cases hblank : Text.isBlank c = true <;> simp [step, tokens, isText, hblank, hquote]
    | word token => by_cases hblank : Text.isBlank c = true <;> simp [step, tokens, isText, hblank, hquote]
    | quoted token => by_cases hbackslash : c = '\\' <;> simp [step, tokens, isText, hquote, hbackslash]
    | escaped token => simp [step, tokens, isText]

theorem flatten_tokens_run (s : Scan) (cs : List Char) :
    (s.run cs).tokens.flatten = s.tokens.flatten ++ s.text cs := by
  induction cs generalizing s with
  | nil => exact (List.append_nil _).symm
  | cons c rest ih => rw [run_cons, ih, flatten_tokens_step, List.append_assoc, text]

end Scan

/-- The tokens of a text are those of a scan. One after the other they are the characters of the text that are
neither blanks between tokens nor quote marks nor escaping backslashes; and quotes around nothing are a token. -/
theorem tokenize_scans :
    (∀ text : String, tokenize text = (Scan.start.run text.toList).tokens.map String.ofList) ∧
      (∀ text : String, (tokenize text).flatMap String.toList = Scan.start.text text.toList) ∧
      tokenize "\"\"" = [""] := by
  have hscan (text : String) : tokenize text = (Scan.start.run text.toList).tokens.map String.ofList := by
    rw [tokenize, Scan.start, Scan.tokens_run_gap, List.nil_append]
  refine ⟨hscan, fun text => ?_, ?_⟩
  · have hflat := Scan.flatten_tokens_run Scan.start text.toList
    rw [hscan, List.flatMap_map]
    rw [show Scan.start.tokens.flatten = [] from rfl, List.nil_append] at hflat
    simpa [List.flatMap_id'] using hflat
  · rw [hscan]
    rfl

/-- Quotes left open run to the end of the text, where a backslash escapes nothing. -/
example : tokenize "a\"b c\" \"d\\" = ["ab c", "d"] := by cbv

end CatalogSearch.Token
