import CatalogSearch.Proofs.Clauses
import CatalogSearch.Terms.Token
/-!
Two query texts written one after the other, with a blank between them. The main statement is
`interpret_join`: where the first text leaves no quote open, its tokens are followed by those of the second;
and unless an `OR` reaches across the blank, so are its clauses, and both texts have to match.
-/
namespace CatalogSearch

universe u

namespace Token

/-- Whether a quote is open at the end of a text, which may start inside quotes. -/
def endsQuoted : Bool → List Char → Bool
  | quoted, [] => quoted
  | false, c :: rest => endsQuoted (c == '"') rest
  | true, '"' :: rest => endsQuoted false rest
  | true, '\\' :: [] => true
  | true, '\\' :: _ :: rest => endsQuoted true rest
  | true, _ :: rest => endsQuoted true rest

/-- Quotes that are closed again are closed whatever follows. -/
theorem quotedPart_append {s : List Char} (h : endsQuoted true s = false) (t : List Char) :
    quotedPart (s ++ t) = ((quotedPart s).1, (quotedPart s).2 ++ t) ∧
      endsQuoted false (quotedPart s).2 = false := by
  fun_induction quotedPart s with
  | case1 => cases h
  | case2 rest => exact ⟨rfl, h⟩
  | case3 => cases h
  | case4 c rest ih =>
    obtain ⟨happend, hends⟩ := ih h
    refine ⟨?_, hends⟩
    simp only [List.cons_append, quotedPart, happend]
    rfl
  | case5 c rest hquote hlast hescape ih =>
    have hbackslash : c ≠ '\\' := by
      rintro rfl
      cases rest with
      | nil => exact hlast rfl rfl
      | cons d rest => exact hescape d rest rfl rfl
    have hends : endsQuoted true rest = false := by
      rw [endsQuoted.eq_def] at h
      simpa [hquote, hbackslash] using h
    obtain ⟨happend, hends⟩ := ih hends
    refine ⟨?_, hends⟩
    rw [List.cons_append, quotedPart.eq_def]
    simp [hbackslash, happend]

theorem word_append {s : List Char} (h : endsQuoted false s = false) {w : Char} (hw : Text.isBlank w = true)
    (t : List Char) :
    word (s ++ w :: t) = ((word s).1, (word s).2 ++ w :: t) ∧ endsQuoted false (word s).2 = false := by
  fun_induction word s with
  | case1 => exact ⟨word_blank hw t, rfl⟩
  | case2 c rest hblank => exact ⟨word_blank hblank _, h⟩
  | case3 rest hblank ih =>
    obtain ⟨hquoted, hends⟩ := quotedPart_append h (w :: t)
    obtain ⟨happend, hends⟩ := ih hends
    refine ⟨?_, hends⟩
    rw [List.cons_append, word_quote, hquoted, happend]
    rfl
  | case4 c rest hblank hquote ih =>
    have hends : endsQuoted false rest = false := by
      rwa [endsQuoted, beq_eq_false_iff_ne.2 hquote] at h
    obtain ⟨happend, hends⟩ := ih hends
    refine ⟨?_, hends⟩
    rw [List.cons_append, word_char hblank hquote, happend]
    rfl

theorem tokens_append {s : List Char} (h : endsQuoted false s = false) {w : Char} (hw : Text.isBlank w = true)
    (t : List Char) : tokens (s ++ w :: t) = tokens s ++ tokens t := by
  fun_induction tokens s with
  | case1 => exact tokens_blank hw t
  | case2 c rest hblank ih =>
    have hquote : c ≠ '"' := by
      rintro rfl
      exact absurd hblank (by decide)
    have hends : endsQuoted false rest = false := by
      rwa [endsQuoted, beq_eq_false_iff_ne.2 hquote] at h
    rw [List.cons_append, tokens_blank hblank]
    exact ih hends
  | case3 c rest hblank ih =>
    obtain ⟨hword, hends⟩ := word_append h hw t
    rw [List.cons_append, tokens_word hblank, ← List.cons_append, hword, ih hends]
    rfl

theorem tokenize_join {a b : String} {w : Char} (hw : Text.isBlank w = true)
    (h : endsQuoted false a.toList = false) :
    tokenize (a ++ String.singleton w ++ b) = tokenize a ++ tokenize b := by
  have hjoin : (a ++ String.singleton w ++ b).toList = a.toList ++ w :: b.toList := by simp
  rw [tokenize, hjoin, tokens_append h hw, List.map_append]
  rfl

end Token

namespace Clause

section Collect
variable {fields : List String}

theorem collect_append {xs : List String} (h : xs.getLast? ≠ some "OR") (found : List Filter)
    (ys : List String) :
    collect fields found (xs ++ ys) = collect fields (collect fields found xs).reverse ys := by
  induction found, xs using collect_induction fields with
  | nil found => rw [List.nil_append, collect, List.reverse_reverse]
  | token found token rest hor ih =>
    rw [List.cons_append, collect_token hor, collect_token hor]
    refine ih fun hlast => h ?_
    rw [List.getLast?_cons, hlast]
    rfl
  | join clause earlier operand rest ih =>
    rw [List.cons_append, List.cons_append, collect_join, collect_join]
    refine ih fun hlast => h ?_
    rw [List.getLast?_cons_cons, List.getLast?_cons, hlast]
    rfl
  | idle found rest hnone ih =>
    cases rest with
    | nil => exact absurd rfl h
    | cons second rest =>
      have hfound : found = [] := hnone.resolve_right (List.cons_ne_nil second rest)
      rw [List.cons_append, collect_or_idle (.inl hfound), collect_or_idle (.inl hfound)]
      exact ih (by rwa [List.getLast?_cons_cons] at h)

/-- Tokens reach no further back than to the last clause that was found. -/
theorem collect_append_found {found : List Filter} (h : found ≠ []) (older : List Filter)
    (tokens : List String) :
    collect fields (found ++ older) tokens = older.reverse ++ collect fields found tokens := by
  induction found, tokens using collect_induction fields with
  | nil found => rw [collect, collect, List.reverse_append]
  | token found token rest hor ih =>
    rw [collect_token hor, collect_token hor, ← List.append_assoc]
    exact ih fun hnil => h (List.append_eq_nil_iff.1 hnil).2
  | join clause earlier operand rest ih =>
    rw [List.cons_append, collect_join, collect_join, ← List.cons_append]
    exact ih (List.cons_ne_nil _ _)
  | idle found rest hnone ih =>
    have hrest : rest = [] := hnone.resolve_left h
    rw [collect_or_idle (.inr hrest), collect_or_idle (.inr hrest)]
    exact ih h

theorem collect_eq_append {tokens : List String} (h : (tokens.dropWhile isIdle).head? ≠ some "OR")
    (found : List Filter) : collect fields found tokens = found.reverse ++ collect fields [] tokens := by
  induction tokens with
  | nil => rw [collect, collect, List.reverse_nil, List.append_nil]
  | cons token rest ih =>
    cases hidle : isIdle token with
    | true =>
      have hor := ne_or_of_isIdle hidle
      rw [List.dropWhile_cons_of_pos hidle] at h
      rw [collect_token hor, collect_token hor, clause?_of_isIdle hidle]
      exact ih h
    | false =>
      rw [List.dropWhile_cons_of_neg (by rw [hidle]; exact Bool.false_ne_true)] at h
      have hor : token ≠ "OR" := fun heq => h (congrArg some heq)
      obtain ⟨clause, hclause⟩ := exists_clause? hidle hor fields
      rw [collect_token hor, collect_token hor, hclause]
      exact collect_append_found (List.cons_ne_nil clause []) found rest

end Collect

theorem ofTokens_append (fields : List String) {xs ys : List String} (hxs : xs.getLast? ≠ some "OR")
    (hys : (ys.dropWhile isIdle).head? ≠ some "OR") :
    ofTokens fields (xs ++ ys) = ofTokens fields xs ++ ofTokens fields ys := by
  rw [ofTokens, collect_append hxs, collect_eq_append hys, List.reverse_reverse]
  rfl

theorem finds_queryOf_interpret (fields : List String) {Object : Type u} (e : Engine Object) (o : Object)
    (tokens : List String) :
    e.finds (Filter.queryOf (interpret fields tokens)) o =
      (ofTokens fields tokens).all fun clause => e.finds clause.render o := by
  rw [interpret_eq, Filter.finds_queryOf_all?]

/-- Joined texts have the tokens of both and, where no `OR` reaches across, the clauses of both. -/
theorem interpret_join {a b : String} {w : Char} (hw : Text.isBlank w = true)
    (hquote : Token.endsQuoted false a.toList = false) :
    Token.tokenize (a ++ String.singleton w ++ b) = Token.tokenize a ++ Token.tokenize b ∧
      ((Token.tokenize a).getLast? ≠ some "OR" →
        ((Token.tokenize b).dropWhile isIdle).head? ≠ some "OR" →
        ∀ fields,
          clausesOf (interpret fields (Token.tokenize (a ++ String.singleton w ++ b))) =
            clausesOf (interpret fields (Token.tokenize a)) ++ clausesOf (interpret fields (Token.tokenize b)) ∧
          ∀ {Object : Type u} (e : Engine Object) (o : Object),
            e.finds (Filter.queryOf (interpret fields (Token.tokenize (a ++ String.singleton w ++ b)))) o =
              (e.finds (Filter.queryOf (interpret fields (Token.tokenize a))) o &&
                e.finds (Filter.queryOf (interpret fields (Token.tokenize b))) o)) := by
  have htokens := Token.tokenize_join (b := b) hw hquote
  refine ⟨htokens, fun ha hb fields => ?_⟩
  rw [htokens]
  have hclauses := ofTokens_append fields ha hb
  refine ⟨?_, fun e o => ?_⟩
  · rw [clausesOf_interpret, clausesOf_interpret, clausesOf_interpret, hclauses]
  · rw [finds_queryOf_interpret, finds_queryOf_interpret, finds_queryOf_interpret, hclauses, List.all_append]

theorem tokenize_clay : Token.tokenize "soil OR \"clay OR\"" = ["soil", "OR", "clay OR"] := by
  decide +kernel

theorem tokenize_probe : Token.tokenize "- AND probe* OR station" = ["-", "AND", "probe*", "OR", "station"] := by
  decide +kernel

theorem interpret_join_clay :
    clausesOf (interpret ["label"]
        (Token.tokenize ("soil OR \"clay OR\"" ++ String.singleton '\t' ++ "- AND probe* OR station"))) =
      [.any [.phrase "soil" ["label"], .phrase "clay OR" ["label"]],
        .any [.wildcard "probe*" ["label"], .phrase "station" ["label"]]] := by
  have hlast : (Token.tokenize "soil OR \"clay OR\"").getLast? ≠ some "OR" := by
    rw [tokenize_clay]
    decide
  have hfirst : ((Token.tokenize "- AND probe* OR station").dropWhile isIdle).head? ≠ some "OR" := by
    rw [tokenize_probe]
    decide
  have hjoin := (interpret_join.{0} (a := "soil OR \"clay OR\"") (b := "- AND probe* OR station") (w := '\t')
    (by decide) (by decide)).2 hlast hfirst ["label"]
  refine hjoin.1.trans ?_
  simp only [tokenize_clay, tokenize_probe]
  rfl

end Clause
end CatalogSearch
