import CatalogSearch.Proofs.Meaning
import CatalogSearch.Proofs.Pruning
import CatalogSearch.Selection
/-!
Boolean queries with a list of no clauses, which an engine would take for queries that match everything. The
main statement is `compile_hasEmptyList_iff`: a compiled selection has such a list exactly where a pattern is
looked for in no field. Nothing in a structured filter makes one, and no group that is left without members.
-/
namespace CatalogSearch

namespace Query

def bodyHasEmptyList : Json → Bool
  | .object lists => lists.any fun list =>
    ["must", "should", "must_not"].contains list.1 && list.2.items?.any List.isEmpty
  | _ => false

mutual

/-- Whether a boolean query with an empty list occurs anywhere in a query. What a term is compared with is a
value and no query. -/
def hasEmptyList : Json → Bool
  | .object members => hasEmptyListIn members
  | .array items => hasEmptyListAmong items
  | _ => false

def hasEmptyListIn : List (String × Json) → Bool
  | [] => false
  | (name, value) :: rest =>
    (name != "term" && ((name == "bool" && bodyHasEmptyList value) || hasEmptyList value)) ||
      hasEmptyListIn rest

def hasEmptyListAmong : List Json → Bool
  | [] => false
  | item :: rest => hasEmptyList item || hasEmptyListAmong rest

end

theorem hasEmptyListAmong_eq_any (items : List Json) : hasEmptyListAmong items = items.any hasEmptyList := by
  induction items with
  | nil => rfl
  | cons item rest ih => rw [hasEmptyListAmong, ih, List.any_cons]

theorem hasEmptyList_single {name : String} (h : name ≠ "term") (value : Json) :
    hasEmptyList (single name value) = ((name == "bool" && bodyHasEmptyList value) || hasEmptyList value) := by
  rw [single, hasEmptyList, hasEmptyListIn, hasEmptyListIn, Bool.or_false, bne_iff_ne.2 h, Bool.true_and]

theorem hasEmptyList_bool {list : String} (h : list ∈ ["must", "should", "must_not"]) (clauses : List Json) :
    hasEmptyList (single "bool" (single list (.array clauses))) =
      (clauses.isEmpty || clauses.any hasEmptyList) := by
  have hterm : list ≠ "term" := by
    rintro rfl
    exact absurd h (by decide)
  have hbool : list ≠ "bool" := by
    rintro rfl
    exact absurd h (by decide)
  have hbody : bodyHasEmptyList (single list (.array clauses)) = clauses.isEmpty := by
    rw [single, bodyHasEmptyList, List.any_cons, List.any_nil, Bool.or_false, List.contains_iff_mem.2 h]
    rfl
  rw [hasEmptyList_single (by decide), hbody, hasEmptyList_single hterm, beq_eq_false_iff_ne.2 hbool,
    hasEmptyList, hasEmptyListAmong_eq_any]
  rfl

theorem hasEmptyList_term (field : String) (value : Json) : hasEmptyList (term field value) = false := rfl

theorem hasEmptyList_present (field : String) : hasEmptyList (present field) = false := rfl

theorem hasEmptyList_value (field pattern : String) :
    hasEmptyList (single field (single "value" (.string pattern))) = false := by
  simp [single, hasEmptyList, hasEmptyListIn, bodyHasEmptyList]

theorem hasEmptyList_wildcard (field pattern : String) : hasEmptyList (wildcard field pattern) = false := by
  rw [wildcard, hasEmptyList_single (by decide), hasEmptyList_value]
  rfl

theorem hasEmptyList_multiMatch (text mode : String) (fields : List String) :
    hasEmptyList (multiMatch text mode fields) = false := by
  have hfields : (fields.map Json.string).any hasEmptyList = false := by
    rw [List.any_map, List.any_eq_false]
    exact fun _ _ => Bool.false_ne_true
  rw [multiMatch, hasEmptyList_single (by decide)]
  simp [hasEmptyList, hasEmptyListIn, Json.ofStrings, hasEmptyListAmong_eq_any, hfields, bodyHasEmptyList]

theorem hasEmptyList_nested (path : String) (query : Json) :
    hasEmptyList (nested path query) = hasEmptyList query := by
  rw [nested, hasEmptyList_single (by decide)]
  simp [hasEmptyList, hasEmptyListIn, bodyHasEmptyList]

end Query

namespace Filter

mutual

def hasEmptyList : Filter → Bool
  | .wildcard _ fields => fields.isEmpty
  | .not inner => hasEmptyList inner
  | .all children => children.isEmpty || hasEmptyListAmong children
  | .any children => children.isEmpty || hasEmptyListAmong children
  | .nested _ inner => hasEmptyList inner
  | _ => false

def hasEmptyListAmong : List Filter → Bool
  | [] => false
  | child :: rest => hasEmptyList child || hasEmptyListAmong rest

end

theorem hasEmptyListAmong_eq_any (children : List Filter) :
    hasEmptyListAmong children = children.any hasEmptyList := by
  induction children with
  | nil => rfl
  | cons child rest ih => rw [hasEmptyListAmong, ih, List.any_cons]

theorem hasEmptyList_render (f : Filter) : Query.hasEmptyList f.render = f.hasEmptyList := by
  induction f with
  | term field value | contains field value => exact Query.hasEmptyList_term field value
  | present field => exact Query.hasEmptyList_present field
  | nothing => rfl
  | matching mode text fields => exact Query.hasEmptyList_multiMatch text mode.name fields
  | wildcard pattern fields =>
    rw [render, Query.should, Query.hasEmptyList_bool (by decide), List.isEmpty_map, List.any_map]
    simp [Function.comp_def, Query.hasEmptyList_wildcard, hasEmptyList]
  | not inner ih =>
    rw [render, Query.mustNot, Query.hasEmptyList_bool (by decide), List.any_cons, ih, hasEmptyList]
    simp
  | all children ih =>
    rw [render, Query.must, Query.hasEmptyList_bool (by decide), renderEach_eq_map, List.isEmpty_map,
      List.any_map, hasEmptyList, hasEmptyListAmong_eq_any]
    exact congrArg _ (any_congr_of_mem ih)
  | any children ih =>
    rw [render, Query.should, Query.hasEmptyList_bool (by decide), renderEach_eq_map, List.isEmpty_map,
      List.any_map, hasEmptyList, hasEmptyListAmong_eq_any]
    exact congrArg _ (any_congr_of_mem ih)
  | nested path inner ih => rw [render, Query.hasEmptyList_nested, ih, hasEmptyList]

theorem hasEmptyList_collapse {group : List Filter → Filter} {children : List Filter}
    (h : (group children).hasEmptyList = (children.isEmpty || children.any hasEmptyList)) :
    (collapse group children).hasEmptyList = (children.isEmpty || children.any hasEmptyList) := by
  match children with
  | [child] => simp [collapse]
  | [] => exact h
  | first :: second :: rest => exact h

theorem hasEmptyList_all (children : List Filter) :
    (all children).hasEmptyList = (children.isEmpty || children.any hasEmptyList) := by
  rw [hasEmptyList, hasEmptyListAmong_eq_any]

theorem hasEmptyList_any (children : List Filter) :
    (any children).hasEmptyList = (children.isEmpty || children.any hasEmptyList) := by
  rw [hasEmptyList, hasEmptyListAmong_eq_any]

theorem hasEmptyList_simplify (f : Filter) : f.simplify.hasEmptyList = f.hasEmptyList := by
  induction f with
  | term | contains | matching | wildcard | present | nothing => rfl
  | not inner ih => rw [simplify, hasEmptyList, hasEmptyList, ih]
  | all children ih =>
    rw [simplify, simplifyEach_eq_map, hasEmptyList_collapse (hasEmptyList_all _), List.isEmpty_map,
      List.any_map, hasEmptyList_all]
    exact congrArg _ (any_congr_of_mem ih)
  | any children ih =>
    rw [simplify, simplifyEach_eq_map, hasEmptyList_collapse (hasEmptyList_any _), List.isEmpty_map,
      List.any_map, hasEmptyList_any]
    exact congrArg _ (any_congr_of_mem ih)
  | nested path inner ih => rw [simplify, hasEmptyList, hasEmptyList, ih]

theorem any_hasEmptyList_all? (filters : List Filter) :
    (all? filters).any hasEmptyList = filters.any hasEmptyList := by
  match filters with
  | [] => rfl
  | [f] => simp [all?]
  | first :: second :: rest => exact hasEmptyList_all (first :: second :: rest)

theorem any_hasEmptyList_any? (filters : List Filter) :
    (any? filters).any hasEmptyList = filters.any hasEmptyList := by
  match filters with
  | [] => rfl
  | [f] => simp [any?]
  | first :: second :: rest => exact hasEmptyList_any (first :: second :: rest)

theorem any_hasEmptyList_simplify (f : Option Filter) :
    (f.map simplify).any hasEmptyList = f.any hasEmptyList := by
  cases f with
  | none => rfl
  | some f => exact hasEmptyList_simplify f

theorem hasEmptyList_oneOf (field : String) (values : List Json) : (oneOf field values).hasEmptyList = false := by
  have h := any_hasEmptyList_any? (values.map (term field))
  rw [List.any_map] at h
  have hterms : values.any (hasEmptyList ∘ term field) = false := by
    rw [List.any_eq_false]
    exact fun _ _ => Bool.false_ne_true
  rw [oneOf]
  cases hany : any? (values.map (term field)) with
  | none => rfl
  | some f =>
    rw [hany, hterms] at h
    exact h

theorem hasEmptyList_inScopes (field : String) (inner : Filter) :
    (inScopes field inner).hasEmptyList = inner.hasEmptyList := by
  rw [inScopes]
  induction Field.scopes field with
  | nil => rfl
  | cons path rest ih => rw [List.foldr_cons, hasEmptyList, ih]

end Filter

theorem Condition.hasEmptyList_onField (field : String) (condition : Condition) :
    (condition.onField field).hasEmptyList = false := by
  cases condition with
  | equals value => rw [onField]; split <;> rfl
  | differs value => rw [onField]; split <;> rfl
  | contains value => rfl
  | oneOf values => exact Filter.hasEmptyList_oneOf field values

theorem Join.any_hasEmptyList_of (join : Join) (filters : List Filter) :
    (join.of filters).any Filter.hasEmptyList = filters.any Filter.hasEmptyList := by
  cases join with
  | all => exact Filter.any_hasEmptyList_all? filters
  | any => exact Filter.any_hasEmptyList_any? filters

theorem any_hasEmptyList_filterMap {α : Type} {make : α → Option Filter} {xs : List α}
    (h : ∀ x ∈ xs, (make x).any Filter.hasEmptyList = false) :
    (xs.filterMap make).any Filter.hasEmptyList = false := by
  rw [List.any_eq_false]
  intro f hf
  obtain ⟨x, hx, hmake⟩ := List.mem_filterMap.1 hf
  have hnone := h x hx
  rw [hmake, Option.any_some] at hnone
  exact Bool.not_eq_true _ ▸ hnone

theorem Criterion.any_hasEmptyList_lenientFilter (c : Criterion) :
    c.lenientFilter.any Filter.hasEmptyList = false := by
  induction c with
  | group join members ih =>
    rw [lenientFilter_group, Join.any_hasEmptyList_of]
    exact any_hasEmptyList_filterMap ih
  | leaf field condition =>
    rw [lenientFilter_leaf, Option.any_some, Filter.hasEmptyList_inScopes, Condition.hasEmptyList_onField]
  | malformed reason element => rfl

theorem Criteria.any_hasEmptyList_lenientFilter (v : Json) :
    (lenientFilter v).any Filter.hasEmptyList = false := by
  rw [lenientFilter_eq, Filter.any_hasEmptyList_all?]
  exact any_hasEmptyList_filterMap fun x _ => (Criterion.ofJson x).any_hasEmptyList_lenientFilter

namespace Clause

/-- The tokens that are read as patterns, where a clause may have been found before and the next token may be
the operand of an `OR`. An operand is a phrase, also with a star in it. -/
def patterns (found operand : Bool) : List String → List String
  | [] => []
  | token :: rest =>
    if operand then patterns found false rest
    else
      match Role.of token with
      | .conjunction => patterns found false rest
      | .disjunction => patterns found found rest
      | .bareDash => patterns found false rest
      | .negated _ => patterns true false rest
      | .pattern text => text :: patterns true false rest
      | .plain _ => patterns true false rest

theorem hasEmptyList_phrase (text : String) (fields : List String) :
    (Filter.phrase text fields).hasEmptyList = false := rfl

theorem hasEmptyList_or (clause : Filter) (operand : String) (fields : List String) :
    (Filter.any [clause, .phrase operand fields]).hasEmptyList = clause.hasEmptyList := by
  simp [Filter.hasEmptyList_any, hasEmptyList_phrase]

theorem any_hasEmptyList_collect (fields : List String) (found : List Filter) (tokens : List String) :
    (collect fields found tokens).any Filter.hasEmptyList =
      (found.any Filter.hasEmptyList ||
        (fields.isEmpty && !(patterns (!found.isEmpty) false tokens).isEmpty)) := by
  fun_induction collect fields found tokens with
  | case1 found => simp [patterns]
  | case2 found token rest hrole ih => simp [ih, patterns, hrole]
  | case3 token hrole clause earlier operand rest ih => simp [ih, patterns, hrole, hasEmptyList_or]
  | case4 token hrole found rest hoperand ih =>
    -- Nothing is joined here, as a clause before or a token after is missing.
    cases found with
    | nil => simp [ih, patterns, hrole]
    | cons clause earlier =>
      cases rest with
      | nil => simp [ih, patterns, hrole]
      | cons operand rest => exact (hoperand clause earlier operand rest rfl rfl).elim
  | case5 found token rest hrole ih => simp [ih, patterns, hrole]
  | case6 found token rest text hrole ih =>
    simp [ih, patterns, hrole, Filter.hasEmptyList, hasEmptyList_phrase]
  | case7 found token rest text hrole ih =>
    cases hfields : fields.isEmpty <;> simp [ih, patterns, hrole, Filter.hasEmptyList, hfields]
  | case8 found token rest text hrole ih => simp [ih, patterns, hrole, hasEmptyList_phrase]

theorem any_hasEmptyList_interpret (fields tokens : List String) :
    (interpret fields tokens).any Filter.hasEmptyList =
      (fields.isEmpty && !(patterns false false tokens).isEmpty) := by
  rw [interpret, Filter.any_hasEmptyList_simplify, Filter.any_hasEmptyList_all?, ofTokens,
    any_hasEmptyList_collect]
  rfl

end Clause

namespace Selection

def patterns (s : Selection) : List String :=
  s.text.elim [] fun text => Clause.patterns false false (Token.tokenize text)

theorem any_hasEmptyList_textFilter (s : Selection) (fields : List String) :
    (s.textFilter fields).any Filter.hasEmptyList = (fields.isEmpty && !s.patterns.isEmpty) := by
  rw [textFilter, patterns]
  cases s.text with
  | none => simp
  | some text => exact Clause.any_hasEmptyList_interpret fields (Token.tokenize text)

theorem any_hasEmptyList_criteriaFilter {s : Selection} {f : Option Filter} (h : s.criteriaFilter = .ok f) :
    f.any Filter.hasEmptyList = false := by
  rw [criteriaFilter] at h
  cases hcriteria : s.criteria with
  | none =>
    rw [hcriteria] at h
    cases h
    rfl
  | some v =>
    rw [hcriteria] at h
    rw [Criteria.eq_lenientFilter_of_filter? h, Criteria.any_hasEmptyList_lenientFilter]

/-- A query has an empty list of clauses exactly where the text has a pattern and there is no field to look
for it in. -/
theorem compile_hasEmptyList_iff {s : Selection} {fields : List String} {f : Filter}
    (h : s.compile fields = .ok (some f)) :
    Query.hasEmptyList f.render = true ↔ fields = [] ∧ s.patterns ≠ [] := by
  rw [compile] at h
  cases hcriteria : s.criteriaFilter with
  | error error =>
    rw [hcriteria] at h
    cases h
  | ok structured =>
    rw [hcriteria] at h
    have hparts : (Filter.combine [s.textFilter fields, structured]).any Filter.hasEmptyList =
        ((s.textFilter fields).any Filter.hasEmptyList || structured.any Filter.hasEmptyList) := by
      rw [Filter.combine, Filter.any_hasEmptyList_all?]
      cases s.textFilter fields <;> cases structured <;> simp
    have hsome : (Filter.combine [s.textFilter fields, structured]).map Filter.simplify = some f := by
      injection h
    rw [Filter.hasEmptyList_render, ← Option.any_some (p := Filter.hasEmptyList), ← hsome,
      Filter.any_hasEmptyList_simplify, hparts, any_hasEmptyList_criteriaFilter hcriteria,
      any_hasEmptyList_textFilter]
    simp

def stations : Selection := empty.setText "station* OR \"a *\" -old*"

theorem tokenize_stations :
    Token.tokenize "station* OR \"a *\" -old*" = ["station*", "OR", "a *", "-old*"] := by decide +kernel

theorem compile_hasEmptyList_stations :
    ∃ f, stations.compile ["label", "city"] = .ok (some f) ∧ stations.patterns = ["station*"] ∧
      Query.hasEmptyList f.render = false := by
  have hcompile : stations.compile ["label", "city"] = .ok (some (.all
      [.any [.wildcard "station*" ["label", "city"], .phrase "a *" ["label", "city"]],
        .not (.phrase "old*" ["label", "city"])])) := by
    rw [compile, textFilter, stations]
    change Except.ok ((Filter.combine [Clause.interpret _ (Token.tokenize _), none]).map Filter.simplify) = _
    rw [tokenize_stations]
    rfl
  have hpatterns : stations.patterns = ["station*"] := by
    change Clause.patterns false false (Token.tokenize _) = _
    rw [tokenize_stations]
    decide
  refine ⟨_, hcompile, hpatterns, ?_⟩
  rw [← Bool.not_eq_true, compile_hasEmptyList_iff hcompile]
  exact fun h => absurd h.1 (by decide)

/-- Without a field a pattern is compiled to a query with an empty list, and an engine finds everything. -/
theorem compile_pattern_without_field :
    ∃ f, (empty.setText "abc*").compile [] = .ok (some f) ∧ Query.hasEmptyList f.render = true ∧
      ∀ (e : Engine Document) (o : Document), e.finds f.render o = true := by
  have htokens : Token.tokenize "abc*" = ["abc*"] := by decide +kernel
  refine ⟨.wildcard "abc*" [], ?_, rfl, fun e o => rfl⟩
  change Except.ok ((Filter.combine [Clause.interpret _ (Token.tokenize _), none]).map Filter.simplify) = _
  rw [htokens]
  rfl

end Selection
end CatalogSearch
