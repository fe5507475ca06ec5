import CatalogSearch.Proofs.Collapse
import CatalogSearch.Terms.Clause
import Mathlib.Data.List.Basic
/-!
How clauses are collected from tokens, one token after the other: a token makes a clause of its own, joins one
to the clause before, or is passed over. `collect_induction` is the induction on that, and by
`clausesOf_interpret` the clauses can be read off the filter that is made of them.
-/
namespace CatalogSearch.Clause

def Role.clause? (fields : List String) : Role → Option Filter
  | .negated text => some (.not (.phrase text fields))
  | .pattern text => some (.wildcard text fields)
  | .plain text => some (.phrase text fields)
  | _ => none

theorem Role.of_or : Role.of "OR" = .disjunction := by
  rw [of, if_neg (by decide), if_pos rfl]

theorem Role.of_ne_disjunction {token : String} (h : token ≠ "OR") : Role.of token ≠ .disjunction := by
  rw [of, if_neg h]
  split
  · nofun
  · split
    · nofun
    · nofun
    · split <;> nofun

def isIdle (token : String) : Bool := token == "AND" || token == "-"

theorem isIdle_iff {token : String} : isIdle token = true ↔ token = "AND" ∨ token = "-" := by
  rw [isIdle, Bool.or_eq_true, beq_iff_eq, beq_iff_eq]

theorem ne_or_of_isIdle {token : String} (h : isIdle token = true) : token ≠ "OR" := by
  rintro rfl
  exact absurd h (by decide)

theorem clause?_of_isIdle {token : String} (h : isIdle token = true) (fields : List String) :
    (Role.of token).clause? fields = none := by
  rcases isIdle_iff.1 h with rfl | rfl
  · rw [Role.of, if_pos rfl]
    rfl
  · have hdash : "-".toList = ['-'] := by decide
    rw [Role.of, if_neg (by decide), if_neg (by decide), hdash]
    rfl

theorem exists_clause? {token : String} (hidle : isIdle token = false) (hor : token ≠ "OR")
    (fields : List String) : ∃ clause, (Role.of token).clause? fields = some clause := by
  rw [isIdle, Bool.or_eq_false_iff, beq_eq_false_iff_ne, beq_eq_false_iff_ne] at hidle
  rw [Role.of, if_neg hidle.1, if_neg hor]
  split
  · next hdash => exact absurd (String.toList_inj.1 hdash) hidle.2
  · exact ⟨_, rfl⟩
  · split <;> exact ⟨_, rfl⟩

section Collect
variable {fields : List String}

theorem collect_token {token : String} (h : token ≠ "OR") (found : List Filter) (rest : List String) :
    collect fields found (token :: rest) =
      collect fields (((Role.of token).clause? fields).toList ++ found) rest := by
  have hrole := Role.of_ne_disjunction h
  rw [collect.eq_def]
  cases hof : Role.of token with
  | disjunction => exact absurd hof hrole
  | _ => simp [hof, Role.clause?]

theorem collect_join (clause : Filter) (earlier : List Filter) (operand : String) (rest : List String) :
    collect fields (clause :: earlier) ("OR" :: operand :: rest) =
      collect fields (.any [clause, .phrase operand fields] :: earlier) rest := by
  simp [collect, Role.of_or]

theorem collect_or_idle {found : List Filter} {rest : List String} (h : found = [] ∨ rest = []) :
    collect fields found ("OR" :: rest) = collect fields found rest := by
  rcases h with rfl | rfl
  · simp [collect, Role.of_or]
  · simp [collect, Role.of_or]

@[elab_as_elim]
theorem collect_induction (fields : List String) {P : List Filter → List String → Prop}
    (nil : ∀ found, P found [])
    (token : ∀ found token rest, token ≠ "OR" →
      P (((Role.of token).clause? fields).toList ++ found) rest → P found (token :: rest))
    (join : ∀ clause earlier operand rest,
      P (.any [clause, .phrase operand fields] :: earlier) rest →
        P (clause :: earlier) ("OR" :: operand :: rest))
    (idle : ∀ found rest, found = [] ∨ rest = [] → P found rest → P found ("OR" :: rest))
    (found : List Filter) (tokens : List String) : P found tokens :=
  match tokens with
  | [] => nil found
  | first :: rest =>
    if h : first = "OR" then
      match found, rest with
      | clause :: earlier, operand :: rest =>
        h ▸ join clause earlier operand rest (collect_induction fields nil token join idle _ rest)
      | [], rest => h ▸ idle [] rest (.inl rfl) (collect_induction fields nil token join idle _ rest)
      | found, [] => h ▸ idle found [] (.inr rfl) (nil found)
    else token found first rest h (collect_induction fields nil token join idle _ rest)

/-- What holds of single clauses and is kept by joining holds of all that are collected. -/
theorem forall_mem_collect {P : Filter → Prop}
    (single : ∀ role clause, Role.clause? fields role = some clause → P clause)
    (join : ∀ clause operand, P clause → P (.any [clause, .phrase operand fields]))
    {found : List Filter} (h : ∀ clause ∈ found, P clause) (tokens : List String) :
    ∀ clause ∈ collect fields found tokens, P clause := by
  induction found, tokens using collect_induction fields with
  | nil found =>
    intro clause hclause
    exact h clause (List.mem_reverse.1 hclause)
  | token found token rest hor ih =>
    rw [collect_token hor]
    refine ih fun clause hclause => ?_
    rcases List.mem_append.1 hclause with hnew | hold
    · exact single _ clause (Option.mem_toList.1 hnew)
    · exact h clause hold
  | join clause earlier operand rest ih =>
    rw [collect_join]
    refine ih fun c hc => ?_
    rcases List.mem_cons.1 hc with rfl | hc
    · exact join clause operand (h clause List.mem_cons_self)
    · exact h c (List.mem_cons_of_mem _ hc)
  | idle found rest hnone ih =>
    rw [collect_or_idle hnone]
    exact ih h

end Collect

def clausesOf : Option Filter → List Filter
  | none => []
  | some (.all children) => children
  | some f => [f]

/-- Clauses are no conjunctions, and there is nothing to simplify in them. -/
structure IsClause (f : Filter) : Prop where
  simplified : f.simplify = f
  single : clausesOf (some f) = [f]

theorem isClause_of_mem_ofTokens {fields tokens : List String} :
    ∀ clause ∈ ofTokens fields tokens, IsClause clause := by
  refine forall_mem_collect ?_ ?_ (by simp) tokens
  · intro role clause h
    cases role with
    | negated | pattern | plain =>
      cases h
      exact ⟨rfl, rfl⟩
    | _ => cases h
  · intro clause operand h
    refine ⟨?_, rfl⟩
    rw [Filter.simplify, Filter.simplifyEach, h.simplified]
    rfl

theorem clausesOf_all? {clauses : List Filter} (h : ∀ clause ∈ clauses, IsClause clause) :
    clausesOf (Filter.all? clauses) = clauses := by
  match clauses with
  | [] => rfl
  | [clause] => exact (h clause List.mem_cons_self).single
  | first :: second :: rest => rfl

theorem simplify_all? {clauses : List Filter} (h : ∀ clause ∈ clauses, IsClause clause) :
    (Filter.all? clauses).map Filter.simplify = Filter.all? clauses := by
  match clauses with
  | [] => rfl
  | [clause] => exact congrArg some (h clause List.mem_cons_self).simplified
  | first :: second :: rest =>
    have hmap : (first :: second :: rest).map Filter.simplify = first :: second :: rest :=
      (List.map_congr_left fun clause hclause => (h clause hclause).simplified).trans (List.map_id' _)
    change some (Filter.simplify (.all (first :: second :: rest))) = some (.all (first :: second :: rest))
    rw [Filter.simplify, Filter.simplifyEach_eq_map, hmap]
    rfl

theorem interpret_eq (fields tokens : List String) :
    interpret fields tokens = Filter.all? (ofTokens fields tokens) := by
  rw [interpret, simplify_all? isClause_of_mem_ofTokens]

theorem clausesOf_interpret (fields tokens : List String) :
    clausesOf (interpret fields tokens) = ofTokens fields tokens := by
  rw [interpret_eq, clausesOf_all? isClause_of_mem_ofTokens]

end CatalogSearch.Clause
