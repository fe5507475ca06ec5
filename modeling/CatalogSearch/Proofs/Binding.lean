import CatalogSearch.Proofs.Joining
/-!
How `OR` binds. A token list names search terms, and an `OR` between two of them joins the second to all that
was joined before it, and to nothing else. The main statements are `interpret_binds`, by which a compiled text
has the terms of its tokens, each once and in order, in chains that nest to the left; and
`interpret_insert_idle`: where an `AND` or a dash alone is not taken for a term, it changes nothing.
-/
namespace CatalogSearch

namespace Filter

def isDisjunction : Filter → Bool
  | .any _ => true
  | _ => false

def looksIn (fields : List String) : Filter → Bool
  | .matching _ _ searched => searched == fields
  | .wildcard _ searched => searched == fields
  | _ => true

mutual

def atoms : Filter → List Filter
  | .all children => atomsEach children
  | .any children => atomsEach children
  | f => [f]

def atomsEach : List Filter → List Filter
  | [] => []
  | child :: rest => atoms child ++ atomsEach rest

end

theorem atomsEach_eq_flatMap (children : List Filter) : atomsEach children = children.flatMap atoms := by
  induction children with
  | nil => rfl
  | cons child rest ih => rw [atomsEach, ih, List.flatMap_cons]

theorem atoms_all? (clauses : List Filter) :
    (all? clauses).toList.flatMap atoms = clauses.flatMap atoms := by
  match clauses with
  | [] => rfl
  | [clause] => rfl
  | first :: second :: rest =>
    have hall : all? (first :: second :: rest) = some (.all (first :: second :: rest)) := rfl
    rw [hall, Option.toList_some, List.flatMap_singleton, atoms, atomsEach_eq_flatMap]

theorem all?_eq_none_iff {clauses : List Filter} : all? clauses = none ↔ clauses = [] := by
  match clauses with
  | [] => simp [all?]
  | [clause] => simp [all?]
  | first :: second :: rest => simp [all?]

theorem any?_eq_none_iff {filters : List Filter} : any? filters = none ↔ filters = [] := by
  match filters with
  | [] => simp [any?]
  | [f] => simp [any?]
  | first :: second :: rest => simp [any?]

/-- A conjunction of several is a node of its own, above those of its children. -/
theorem nodes_all? (clauses : List Filter) :
    (all? clauses).toList.flatMap nodes = clauses.flatMap nodes ∨
      (all? clauses).toList.flatMap nodes = .all clauses :: clauses.flatMap nodes := by
  match clauses with
  | [] => exact .inl rfl
  | [clause] => exact .inl rfl
  | first :: second :: rest =>
    have hall : all? (first :: second :: rest) = some (.all (first :: second :: rest)) := rfl
    right
    rw [hall, Option.toList_some, List.flatMap_singleton, nodes, nodesEach_eq_flatMap]

end Filter

namespace Clause

inductive Atom where
  | phrase (text : String)
  | negated (text : String)
  | pattern (text : String)
deriving DecidableEq, Repr

/-- A leading dash negates the phrase after it, whatever else is in the token. -/
def Atom.of (token : String) : Atom :=
  match token.toList with
  | '-' :: rest => .negated (String.ofList rest)
  | cs => if cs.contains '*' then .pattern token else .phrase token

theorem Atom.of_dash {token : String} {rest : List Char} (h : token.toList = '-' :: rest) :
    Atom.of token = .negated (String.ofList rest) := by
  rw [Atom.of, h]
  rfl

theorem Atom.of_plain {token : String} (h : ∀ rest, token.toList ≠ '-' :: rest) :
    Atom.of token = if token.toList.contains '*' then .pattern token else .phrase token := by
  rw [Atom.of]
  split
  · next rest heq => exact absurd heq (h rest)
  · rfl

def Atom.filter (fields : List String) : Atom → Filter
  | .phrase text => .phrase text fields
  | .negated text => .not (.phrase text fields)
  | .pattern text => .wildcard text fields

structure Term where
  atom : Atom
  joined : Bool
deriving DecidableEq, Repr

/-- The terms of a token list, before which a term may have been found already. Only after one, and before
another token, is an `OR` an operator, and its operand is that token as it is. -/
def terms (found : Bool) : List String → List Term
  | [] => []
  | token :: rest =>
    if isIdle token then terms found rest
    else if token = "OR" then
      match found, rest with
      | true, operand :: rest => ⟨.phrase operand, true⟩ :: terms true rest
      | found, rest => terms found rest
    else ⟨.of token, false⟩ :: terms true rest

theorem terms_idle {token : String} (h : isIdle token = true) (found : Bool) (rest : List String) :
    terms found (token :: rest) = terms found rest := by
  rw [terms.eq_def]
  exact if_pos h

theorem terms_or_first (rest : List String) : terms false ("OR" :: rest) = terms false rest := by
  simp [terms, isIdle]

theorem terms_term {token : String} (hidle : ¬ isIdle token = true) (hor : token ≠ "OR") (found : Bool)
    (rest : List String) : terms found (token :: rest) = ⟨.of token, false⟩ :: terms true rest := by
  rw [terms.eq_def]
  exact (if_neg hidle).trans (if_neg hor)

/-- A term, or a chain with one more phrase joined to it. -/
inductive Chain where
  | single (atom : Atom)
  | or (before : Chain) (operand : String)
deriving DecidableEq, Repr

namespace Chain

def filter (fields : List String) : Chain → Filter
  | .single atom => atom.filter fields
  | .or before operand => .any [before.filter fields, .phrase operand fields]

def terms : Chain → List Term
  | .single atom => [⟨atom, false⟩]
  | .or before operand => before.terms ++ [⟨.phrase operand, true⟩]

theorem terms_ne_nil (c : Chain) : c.terms ≠ [] := by
  cases c with
  | single atom => exact List.cons_ne_nil _ _
  | or before operand => exact List.append_ne_nil_of_right_ne_nil _ (List.cons_ne_nil _ _)

theorem atoms_filter (fields : List String) (c : Chain) :
    (c.filter fields).atoms = c.terms.map fun t => t.atom.filter fields := by
  induction c with
  | single atom => cases atom <;> rfl
  | or before operand ih =>
    rw [filter, Filter.atoms, Filter.atomsEach_eq_flatMap, List.flatMap_cons, ih, terms, List.map_append]
    rfl

theorem nodes_filter_or (fields : List String) (before : Chain) (operand : String) :
    ((or before operand).filter fields).nodes =
      (or before operand).filter fields :: ((before.filter fields).nodes ++ [.phrase operand fields]) := by
  rw [filter, Filter.nodes, Filter.nodesEach_eq_flatMap]
  rfl

theorem countP_isDisjunction_nodes_filter (fields : List String) (c : Chain) :
    (c.filter fields).nodes.countP Filter.isDisjunction = c.terms.countP Term.joined := by
  induction c with
  | single atom => cases atom <;> rfl
  | or before operand ih =>
    rw [nodes_filter_or, List.countP_cons, List.countP_append, ih, terms, List.countP_append]
    rfl

theorem all_looksIn_nodes_filter (fields : List String) (c : Chain) :
    (c.filter fields).nodes.all (Filter.looksIn fields) = true := by
  induction c with
  | single atom => cases atom <;> simp [filter, Atom.filter, Filter.phrase, Filter.nodes, Filter.looksIn]
  | or before operand ih =>
    rw [nodes_filter_or, List.all_cons, List.all_append, ih]
    simp [filter, Filter.phrase, Filter.looksIn]

end Chain

theorem clause?_of {token : String} (hidle : isIdle token = false) (hor : token ≠ "OR") (fields : List String) :
    (Role.of token).clause? fields = some ((Atom.of token).filter fields) := by
  rw [isIdle, Bool.or_eq_false_iff, beq_eq_false_iff_ne, beq_eq_false_iff_ne] at hidle
  rw [Role.of, if_neg hidle.1, if_neg hor]
  split
  · next hbare => exact absurd (String.toList_inj.1 hbare) hidle.2
  · next heq =>
    rw [Atom.of_dash heq]
    rfl
  · next hbare hdash =>
    rw [Atom.of_plain hdash]
    split <;> rfl

/-- Collecting goes from chains to chains, and adds to them the terms of the tokens. -/
theorem exists_chains (tokens : List String) (before : List Chain) :
    ∃ chains : List Chain,
      chains.flatMap Chain.terms = before.reverse.flatMap Chain.terms ++ terms (!before.isEmpty) tokens ∧
      ∀ fields, collect fields (before.map (Chain.filter fields)) tokens = chains.map (Chain.filter fields) := by
  generalize hfound : (!before.isEmpty) = found
  fun_induction terms found tokens generalizing before with
  | case1 found =>
    refine ⟨before.reverse, (List.append_nil _).symm, fun fields => ?_⟩
    rw [collect, List.map_reverse]
  | case2 found token rest hidle ih =>
    obtain ⟨chains, hterms, hcollect⟩ := ih before hfound
    refine ⟨chains, hterms, fun fields => ?_⟩
    rw [collect_token (ne_or_of_isIdle hidle), clause?_of_isIdle hidle]
    exact hcollect fields
  | case3 operand rest hidle ih =>
    obtain ⟨last, earlier, rfl⟩ := List.exists_cons_of_ne_nil (by simpa using hfound)
    obtain ⟨chains, hterms, hcollect⟩ := ih (.or last operand :: earlier) rfl
    refine ⟨chains, ?_, fun fields => ?_⟩
    · simpa [Chain.terms] using hterms
    · rw [List.map_cons, collect_join]
      exact hcollect fields
  | case4 found rest hnone hidle ih =>
    obtain ⟨chains, hterms, hcollect⟩ := ih before hfound
    refine ⟨chains, hterms, fun fields => ?_⟩
    have hmissing : before.map (Chain.filter fields) = [] ∨ rest = [] := by
      cases before with
      | nil => exact .inl rfl
      | cons last earlier =>
        cases rest with
        | nil => exact .inr rfl
        | cons operand rest => exact (hnone operand rest hfound.symm rfl).elim
    rw [collect_or_idle hmissing]
    exact hcollect fields
  | case5 found token rest hidle hor ih =>
    obtain ⟨chains, hterms, hcollect⟩ := ih (.single (Atom.of token) :: before) rfl
    refine ⟨chains, ?_, fun fields => ?_⟩
    · simpa [Chain.terms] using hterms
    · rw [collect_token hor, clause?_of (Bool.eq_false_iff.2 hidle) hor]
      exact hcollect fields

section Chains
variable (fields : List String) (chains : List Chain)

theorem flatMap_terms_eq_nil_iff : chains.flatMap Chain.terms = [] ↔ chains = [] := by
  cases chains with
  | nil => simp
  | cons c rest => simp [Chain.terms_ne_nil]

theorem flatMap_atoms_filter :
    (chains.map (Chain.filter fields)).flatMap Filter.atoms =
      (chains.flatMap Chain.terms).map fun t => t.atom.filter fields := by
  rw [List.flatMap_map, List.map_flatMap]
  exact congrArg chains.flatMap (funext fun c => c.atoms_filter fields)

theorem countP_nodes_filter :
    ((chains.map (Chain.filter fields)).flatMap Filter.nodes).countP Filter.isDisjunction =
      (chains.flatMap Chain.terms).countP Term.joined := by
  rw [List.flatMap_map, List.countP_flatMap, List.countP_flatMap]
  exact congrArg List.sum (List.map_congr_left fun c _ => c.countP_isDisjunction_nodes_filter fields)

theorem all_nodes_filter :
    ((chains.map (Chain.filter fields)).flatMap Filter.nodes).all (Filter.looksIn fields) = true := by
  rw [List.flatMap_map, List.all_flatMap, List.all_eq_true]
  exact fun c _ => c.all_looksIn_nodes_filter fields

end Chains

theorem exists_chains_interpret (tokens : List String) :
    ∃ chains : List Chain, chains.flatMap Chain.terms = terms false tokens ∧
      ∀ fields, interpret fields tokens = Filter.all? (chains.map (Chain.filter fields)) := by
  obtain ⟨chains, hterms, hcollect⟩ := exists_chains tokens []
  refine ⟨chains, hterms, fun fields => ?_⟩
  rw [interpret_eq, ofTokens, ← hcollect, List.map_nil]

theorem interpret_eq_none_iff (fields tokens : List String) :
    interpret fields tokens = none ↔ terms false tokens = [] := by
  obtain ⟨chains, hterms, hinterpret⟩ := exists_chains_interpret tokens
  rw [hinterpret, ← hterms, Filter.all?_eq_none_iff, List.map_eq_nil_iff, flatMap_terms_eq_nil_iff]

/-- The terms of a text come in chains. Its filter is all of these chains: each term is in it once and in order,
each `OR` between two terms is a disjunction, and whatever is looked for is looked for in the given fields. -/
theorem interpret_binds (tokens : List String) :
    ∃ chains : List Chain, chains.flatMap Chain.terms = terms false tokens ∧
      ∀ fields,
        interpret fields tokens = (match chains.map (Chain.filter fields) with
          | [] => none
          | [clause] => some clause
          | clauses => some (.all clauses)) ∧
        (interpret fields tokens = none ↔ terms false tokens = []) ∧
        (interpret fields tokens).toList.flatMap Filter.atoms =
          (terms false tokens).map (fun t => t.atom.filter fields) ∧
        ((interpret fields tokens).toList.flatMap Filter.nodes).countP Filter.isDisjunction =
          (terms false tokens).countP Term.joined ∧
        ((interpret fields tokens).toList.flatMap Filter.nodes).all (Filter.looksIn fields) = true := by
  obtain ⟨chains, hterms, hinterpret⟩ := exists_chains_interpret tokens
  refine ⟨chains, hterms, fun fields => ?_⟩
  have hnone := interpret_eq_none_iff fields tokens
  have hnodes := Filter.nodes_all? (chains.map (Chain.filter fields))
  rw [hinterpret, ← hterms] at hnone ⊢
  refine ⟨Filter.all?.eq_def _, hnone, ?_, ?_, ?_⟩
  · rw [Filter.atoms_all?, flatMap_atoms_filter]
  · rcases hnodes with hnodes | hnodes
    · rw [hnodes, countP_nodes_filter]
    · rw [hnodes, List.countP_cons, countP_nodes_filter]
      rfl
  · rcases hnodes with hnodes | hnodes
    · rw [hnodes, all_nodes_filter]
    · rw [hnodes, List.all_cons, all_nodes_filter]
      rfl

/-- The first `OR` has no term before it and the last no token after it; the one between takes what follows it
for a phrase. -/
example : terms false ["OR", "soil*", "-", "OR", "AND", "-clay", "OR"] =
    [⟨.pattern "soil*", false⟩, ⟨.phrase "AND", true⟩, ⟨.negated "clay", false⟩] := by decide

/-- Where an `AND` or a dash alone is no operand, it might as well not be there: an `OR` after it still reaches
what is before it. -/
theorem interpret_insert_idle (fields : List String) {xs : List String} (hxs : xs.getLast? ≠ some "OR")
    (ys : List String) {token : String} (htoken : token = "AND" ∨ token = "-") :
    interpret fields (xs ++ [token] ++ ys) = interpret fields (xs ++ ys) := by
  have hidle := isIdle_iff.2 htoken
  have hskip (found : List Filter) : collect fields found (token :: ys) = collect fields found ys := by
    rw [collect_token (ne_or_of_isIdle hidle), clause?_of_isIdle hidle]
    rfl
  rw [interpret_eq, interpret_eq, ofTokens, ofTokens, List.append_assoc, collect_append hxs,
    collect_append hxs, List.singleton_append, hskip]

theorem interpret_insert_idle_dash :
    interpret ["label"] (["old", "soil*"] ++ ["-"] ++ ["OR", "clay"]) =
      some (.all [.phrase "old" ["label"], .any [.wildcard "soil*" ["label"], .phrase "clay" ["label"]]]) := by
  rw [interpret_insert_idle ["label"] (by decide) ["OR", "clay"] (.inr rfl)]
  rfl

end Clause
end CatalogSearch
