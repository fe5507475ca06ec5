import CatalogSearch.Terms.Token
/-!
Query texts in which given tokens are written. A token stands in quotes, with its quote marks and backslashes
escaped, or as it is if nothing in it would end it or open a quote; between two tokens there are blanks. The
main statement is `tokenize_written`: every list of tokens can be written, and what is written is read back.
-/
namespace CatalogSearch.Token

def escape (c : Char) : List Char := if c = '"' ∨ c = '\\' then ['\\', c] else [c]

def quote (token : List Char) : List Char := '"' :: (token.flatMap escape ++ ['"'])

/-- The texts that stand for a token. A backslash without quotes around it escapes nothing, so it may stand in
a token that is written as it is. -/
inductive Spells : List Char → List Char → Prop where
  | quoted (token : List Char) : Spells (quote token) token
  | plain {token : List Char} (hsome : token ≠ []) (hblank : ∀ c ∈ token, Text.isBlank c = false)
      (hquote : '"' ∉ token) : Spells token token

/-- The texts that stand for a list of tokens: blanks may come first and last, and must come between. -/
inductive Written : List (List Char) → List Char → Prop where
  | none {blanks : List Char} (hblanks : blanks.all Text.isBlank = true) : Written [] blanks
  | last {before text token after : List Char} (hbefore : before.all Text.isBlank = true)
      (htext : Spells text token) (hafter : after.all Text.isBlank = true) :
      Written [token] (before ++ text ++ after)
  | more {before text token between rest next : List Char} {tokens : List (List Char)}
      (hbefore : before.all Text.isBlank = true) (htext : Spells text token)
      (hbetween : between.all Text.isBlank = true) (hsome : between ≠ [])
      (hrest : Written (next :: tokens) rest) :
      Written (token :: next :: tokens) (before ++ text ++ between ++ rest)

section Quotes

theorem quotedPart_char {c : Char} (hquote : c ≠ '"') (hbackslash : c ≠ '\\') (rest : List Char) :
    quotedPart (c :: rest) = (c :: (quotedPart rest).1, (quotedPart rest).2) := by
  rw [quotedPart.eq_def]
  simp [hbackslash, Prod.map]

theorem quotedPart_escape (c : Char) (rest : List Char) :
    quotedPart (escape c ++ rest) = (c :: (quotedPart rest).1, (quotedPart rest).2) := by
  by_cases h : c = '"' ∨ c = '\\'
  · rw [escape, if_pos h]
    rfl
  · rw [escape, if_neg h]
    rw [not_or] at h
    exact quotedPart_char h.1 h.2 rest

theorem quotedPart_escaped (token rest : List Char) :
    quotedPart (token.flatMap escape ++ '"' :: rest) = (token, rest) := by
  induction token with
  | nil => rfl
  | cons c token ih => rw [List.flatMap_cons, List.append_assoc, quotedPart_escape, ih]

end Quotes

section Words
variable {text token rest : List Char}

theorem word_of_head? (h : rest.head?.all Text.isBlank = true) : word rest = ([], rest) := by
  cases rest with
  | nil => rw [word]
  | cons c rest => exact word_blank h rest

theorem word_plain (hblank : ∀ c ∈ token, Text.isBlank c = false) (hquote : '"' ∉ token)
    (hrest : rest.head?.all Text.isBlank = true) : word (token ++ rest) = (token, rest) := by
  induction token with
  | nil => exact word_of_head? hrest
  | cons c token ih =>
    rw [List.forall_mem_cons] at hblank
    rw [List.mem_cons, not_or] at hquote
    have htoken := ih hblank.2 hquote.2
    rw [List.cons_append, word_char (Bool.eq_false_iff.1 hblank.1) (Ne.symm hquote.1), htoken]

theorem Spells.word_append (h : Spells text token) (hrest : rest.head?.all Text.isBlank = true) :
    word (text ++ rest) = (token, rest) := by
  cases h with
  | quoted token =>
    have hquoted := quotedPart_escaped token rest
    rw [quote, List.cons_append, List.append_assoc, List.singleton_append, word_quote, hquoted,
      word_of_head? hrest, List.append_nil]
  | plain hsome hblank hquote => exact word_plain hblank hquote hrest

theorem Spells.exists_cons (h : Spells text token) : ∃ c rest, text = c :: rest ∧ Text.isBlank c = false := by
  cases h with
  | quoted token => exact ⟨'"', _, rfl, by decide⟩
  | plain hsome hblank hquote =>
    obtain ⟨c, rest, rfl⟩ := List.exists_cons_of_ne_nil hsome
    exact ⟨c, rest, rfl, hblank c List.mem_cons_self⟩

theorem Spells.tokens_append (h : Spells text token) (hrest : rest.head?.all Text.isBlank = true) :
    tokens (text ++ rest) = token :: tokens rest := by
  have hword := h.word_append hrest
  obtain ⟨c, tail, rfl, hc⟩ := h.exists_cons
  rw [List.cons_append] at hword ⊢
  rw [tokens_word (Bool.eq_false_iff.1 hc), hword]

end Words

theorem head?_blanks {blanks : List Char} (h : blanks.all Text.isBlank = true) :
    blanks.head?.all Text.isBlank = true := by
  cases blanks with
  | nil => rfl
  | cons c rest =>
    rw [List.all_cons, Bool.and_eq_true] at h
    exact h.1

theorem head?_blanks_append {blanks : List Char} (h : blanks.all Text.isBlank = true) (hsome : blanks ≠ [])
    (rest : List Char) : (blanks ++ rest).head?.all Text.isBlank = true := by
  obtain ⟨c, tail, rfl⟩ := List.exists_cons_of_ne_nil hsome
  have hhead : (c :: tail).head?.all Text.isBlank = true := head?_blanks h
  exact hhead

theorem Written.tokens_eq {tokens : List (List Char)} {text : List Char} (h : Written tokens text) :
    Token.tokens text = tokens := by
  induction h with
  | none hblanks => exact tokens_eq_nil hblanks
  | last hbefore htext hafter =>
    rw [List.append_assoc, tokens_blanks_append hbefore, htext.tokens_append (head?_blanks hafter),
      tokens_eq_nil hafter]
  | more hbefore htext hbetween hsome hrest ih =>
    have hhead := head?_blanks_append hbetween hsome
    rw [List.append_assoc, List.append_assoc, tokens_blanks_append hbefore, htext.tokens_append (hhead _),
      tokens_blanks_append hbetween, ih]

theorem exists_written (tokens : List (List Char)) : ∃ text, Written tokens text := by
  induction tokens with
  | nil => exact ⟨[], .none rfl⟩
  | cons token tokens ih =>
    cases tokens with
    | nil => exact ⟨[] ++ quote token ++ [], .last rfl (.quoted token) rfl⟩
    | cons next tokens =>
      obtain ⟨rest, hrest⟩ := ih
      exact ⟨[] ++ quote token ++ [' '] ++ rest,
        .more rfl (.quoted token) rfl (List.cons_ne_nil _ _) hrest⟩

/-- Every list of tokens can be written, and from each text in which it is written it is read back. -/
theorem tokenize_written (tokens : List String) :
    (∃ text : String, Written (tokens.map String.toList) text.toList) ∧
      ∀ text : String, Written (tokens.map String.toList) text.toList → tokenize text = tokens := by
  refine ⟨?_, fun text h => ?_⟩
  · obtain ⟨text, h⟩ := exists_written (tokens.map String.toList)
    exact ⟨String.ofList text, by rwa [String.toList_ofList]⟩
  · have hsame : String.ofList ∘ String.toList = id := funext fun _ => String.ofList_toList
    rw [tokenize, h.tokens_eq, List.map_map, hsame, List.map_id]

theorem tokenize_written_path :
    Written (["", "a \"b\" \\", "c\\d"].map String.toList) "\t\"\" \"a \\\"b\\\" \\\\\"\u3000\nc\\d ".toList ∧
      tokenize "\t\"\" \"a \\\"b\\\" \\\\\"\u3000\nc\\d " = ["", "a \"b\" \\", "c\\d"] := by
  have htext : "\t\"\" \"a \\\"b\\\" \\\\\"\u3000\nc\\d ".toList =
      ['\t'] ++ quote [] ++ [' '] ++
        ([] ++ quote ['a', ' ', '"', 'b', '"', ' ', '\\'] ++ ['\u3000', '\n'] ++
          ([] ++ ['c', '\\', 'd'] ++ [' '])) := by decide +kernel
  have hblank : ∀ c ∈ ['c', '\\', 'd'], Text.isBlank c = false := by
    rw [List.forall_mem_cons, List.forall_mem_cons, List.forall_mem_singleton]
    decide
  have hwritten : Written (["", "a \"b\" \\", "c\\d"].map String.toList)
      "\t\"\" \"a \\\"b\\\" \\\\\"\u3000\nc\\d ".toList := by
    rw [htext]
    exact .more (by decide) (.quoted []) (by decide) (by decide)
      (.more (by decide) (.quoted _) (by decide) (by decide)
        (.last (by decide) (.plain (by decide) hblank (by decide)) (by decide)))
  exact ⟨hwritten, (tokenize_written _).2 _ hwritten⟩

end CatalogSearch.Token
