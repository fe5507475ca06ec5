import CatalogSearch.Proofs.NormalForm
/-!
What the query of a filter tells of the filter. It does not tell a term of a list field from any other term, and
nothing else is lost: `ofQuery?` reads a filter back. The main statement is `render_tells`: two queries are equal
just where the filters are, up to that. Without a field to look in, the pattern is lost as well.
-/
namespace CatalogSearch

namespace Json

theorem same_string (s t : String) : (string s).same (string t) = (s == t) := rfl

theorem same_array (xs ys : List Json) : (array xs).same (array ys) = sameItems xs ys := rfl

theorem same_object (ms ns : List (String × Json)) :
    (object ms).same (object ns) = (ms.length == ns.length && sameMembers ms ns) := rfl

theorem sameItems_nil : sameItems [] [] = true := rfl

theorem sameItems_cons (x y : Json) (xs ys : List Json) :
    sameItems (x :: xs) (y :: ys) = (x.same y && sameItems xs ys) := rfl

theorem sameMembers_nil (ns : List (String × Json)) : sameMembers [] ns = true := rfl

theorem sameMembers_cons (name : String) (x : Json) (rest ns : List (String × Json)) :
    sameMembers ((name, x) :: rest) ns = ((Table.find? ns name).any x.same && sameMembers rest ns) := by
  rw [sameMembers]
  cases Table.find? ns name <;> rfl

theorem sameItems_strings (xs ys : List String) : sameItems (xs.map string) (ys.map string) = (xs == ys) := by
  induction xs generalizing ys with
  | nil => cases ys <;> rfl
  | cons x xs ih =>
    cases ys with
    | nil => rfl
    | cons y ys => rw [List.map_cons, List.map_cons, sameItems_cons, same_string, ih, List.cons_beq_cons]

end Json

namespace Query
open Json (same_string same_array same_object sameItems_nil sameItems_cons sameMembers_nil sameMembers_cons)

def pattern? (query : Json) : Option (String × String) :=
  match Probe.ofQuery? query with
  | some (.wildcard field pattern) => some (field, pattern)
  | _ => none

theorem same_single (name other : String) (v w : Json) :
    (single name v).same (single other w) = (name == other && v.same w) := by
  rw [single, single, same_object, sameMembers_cons, sameMembers_nil]
  by_cases h : other = name
  · simp [Table.find?, h]
  · simp [Table.find?, h, Ne.symm h]

/-- The order of members, which equality does not see, is no matter where there is but one. -/
theorem exists_single_of_same {name : String} {v y : Json} (h : (single name v).same y = true) :
    ∃ w, y = single name w ∧ v.same w = true := by
  match y with
  | .object [(other, w)] =>
    have hboth := (same_single name other v w).symm.trans h
    rw [Bool.and_eq_true, beq_iff_eq] at hboth
    obtain ⟨rfl, hvalue⟩ := hboth
    exact ⟨w, rfl, hvalue⟩
  | .object [] | .object (_ :: _ :: _) => simp [single, same_object] at h
  | .null | .bool _ | .number _ | .string _ | .array _ => cases h

theorem same_must (xs ys : List Json) : (must xs).same (must ys) = Json.sameItems xs ys := by
  simp [must, same_single, same_array]

theorem same_should (xs ys : List Json) : (should xs).same (should ys) = Json.sameItems xs ys := by
  simp [should, same_single, same_array]

theorem same_mustNot (query other : Json) : (mustNot [query]).same (mustNot [other]) = query.same other := by
  simp [mustNot, same_single, same_array, sameItems_cons, sameItems_nil]

theorem same_term (field other : String) (v w : Json) :
    (term field v).same (term other w) = (field == other && v.same w) := by
  simp [term, same_single]

theorem same_present (field other : String) : (present field).same (present other) = (field == other) := by
  simp [present, same_single, same_string]

theorem same_wildcard (field other p q : String) :
    (wildcard field p).same (wildcard other q) = (field == other && p == q) := by
  simp [wildcard, same_single, same_string]

theorem same_nested (path other : String) (query inner : Json) :
    (nested path query).same (nested other inner) = (path == other && query.same inner) := by
  simp [nested, same_single, same_object, sameMembers_cons, sameMembers_nil, same_string, Table.find?]

theorem same_multiMatch (text other mode kind : String) (xs ys : List String) :
    (multiMatch text mode xs).same (multiMatch other kind ys) = (text == other && (mode == kind && xs == ys)) := by
  simp [multiMatch, same_single, same_object, sameMembers_cons, sameMembers_nil, same_string, same_array,
    Json.ofStrings, Json.sameItems_strings, Table.find?]

theorem sameItems_wildcard (p q : String) (xs ys : List String) :
    Json.sameItems (xs.map (wildcard · p)) (ys.map (wildcard · q)) = ((p == q || xs.isEmpty) && xs == ys) := by
  have regroup : ∀ a b c d : Bool, ((a && b) && ((b || d) && c)) = (b && (a && c)) := by decide
  induction xs generalizing ys with
  | nil => cases ys <;> simp [Json.sameItems]
  | cons x xs ih =>
    cases ys with
    | nil => simp [Json.sameItems]
    | cons y ys =>
      rw [List.map_cons, List.map_cons, sameItems_cons, ih, same_wildcard, regroup]
      simp

def label : Json → Option String
  | .object [(name, _)] => some name
  | _ => none

theorem label_eq_of_same {x y : Json} (h : x.same y = true) : label x = label y := by
  match x with
  | .object [(name, v)] =>
    have hsingle : (single name v).same y = true := h
    obtain ⟨w, rfl, -⟩ := exists_single_of_same hsingle
    rfl
  | .object [] | .object (_ :: _ :: _) =>
    match y with
    | .object [(name, w)] => simp [same_object] at h
    | .object [] | .object (_ :: _ :: _) => rfl
    | .null | .bool _ | .number _ | .string _ | .array _ => rfl
  | .null | .bool _ | .number _ | .string _ | .array _ =>
    match y with
    | .object members => cases h
    | .null | .bool _ | .number _ | .string _ | .array _ => rfl

def kind : Json → Option String × Option String
  | .object [("bool", body)] => (some "bool", label body)
  | query => (label query, none)

theorem kind_single {name : String} (h : name ≠ "bool") (v : Json) : kind (single name v) = (some name, none) := by
  simp [kind, single, label, h]

theorem kind_eq_of_same {name : String} {v y : Json} (h : (single name v).same y = true) :
    kind (single name v) = kind y := by
  obtain ⟨w, rfl, hvalue⟩ := exists_single_of_same h
  by_cases hbool : name = "bool"
  · subst hbool
    exact congrArg (some "bool", ·) (label_eq_of_same hvalue)
  · rw [kind_single hbool, kind_single hbool]

end Query

namespace Filter

mutual

/-- The filter with each term of a list field written as any other term. -/
def plain : Filter → Filter
  | .contains field value => .term field value
  | .not inner => .not (plain inner)
  | .all children => .all (plainEach children)
  | .any children => .any (plainEach children)
  | .nested path inner => .nested path (plain inner)
  | leaf => leaf

def plainEach : List Filter → List Filter
  | [] => []
  | child :: rest => plain child :: plainEach rest

end

theorem plainEach_eq_map (children : List Filter) : plainEach children = children.map plain := by
  induction children with
  | nil => rfl
  | cons child rest ih => rw [plainEach, ih, List.map_cons]

theorem render_plain (f : Filter) : f.plain.render = f.render := by
  induction f with
  | term | contains | matching | wildcard | present | nothing => rfl
  | not inner ih => rw [plain, render, render, ih]
  | all children ih =>
    rw [plain, render, render, renderEach_eq_map, renderEach_eq_map, plainEach_eq_map, List.map_map]
    exact congrArg Query.must (List.map_congr_left ih)
  | any children ih =>
    rw [plain, render, render, renderEach_eq_map, renderEach_eq_map, plainEach_eq_map, List.map_map]
    exact congrArg Query.should (List.map_congr_left ih)
  | nested path inner ih => rw [plain, render, render, ih]

def ofProbe? : Probe → Option Filter
  | .term field value => some (.term field value)
  | .present field => some (.present field)
  | .matching mode text fields => some (.matching mode text fields)
  | .wildcard _ _ => none

mutual

/-- The filter that is rendered to a query. A list of alternatives that look for patterns is one filter, for the
pattern of the first. -/
def ofQuery? : Json → Option Filter
  | .object [("bool", .object [("must", .array clauses)])] => (ofQueries? clauses).map .all
  | .object [("bool", .object [("must_not", .array [.object [("match_all", .object [])]])])] => some .nothing
  | .object [("bool", .object [("must_not", .array [query])])] => (ofQuery? query).map .not
  | .object [("bool", .object [("should", .array clauses)])] =>
    match clauses.mapM Query.pattern? with
    | some ((field, pattern) :: rest) => some (.wildcard pattern (field :: rest.map Prod.fst))
    | _ => (ofQueries? clauses).map .any
  | .object [("nested", .object [("path", .string path), ("query", query)])] =>
    (ofQuery? query).map (.nested path)
  | query => (Probe.ofQuery? query).bind ofProbe?

def ofQueries? : List Json → Option (List Filter)
  | [] => some []
  | query :: rest => (ofQuery? query).bind fun first => (ofQueries? rest).map (first :: ·)

end

theorem pattern?_render (f : Filter) : Query.pattern? f.render = none := by
  cases f with
  | matching mode text fields => rw [Query.pattern?, render, Probe.ofQuery?_multiMatch]
  | _ => rfl

theorem ofQuery?_mustNot (inner : Filter) :
    ofQuery? (Query.mustNot [inner.render]) = (ofQuery? inner.render).map .not := by
  cases inner <;> rfl

theorem ofQuery?_should_of_none {clauses : List Json} (h : clauses.mapM Query.pattern? = none ∨ clauses = []) :
    ofQuery? (Query.should clauses) = (ofQueries? clauses).map .any := by
  rcases h with h | rfl
  · simp only [Query.should, Query.single, ofQuery?, h]
  · rfl

theorem ofQueries?_eq {children : List Filter} (h : ∀ child ∈ children, ofQuery? child.render = some child.plain) :
    ofQueries? (renderEach children) = some (plainEach children) := by
  induction children with
  | nil => rfl
  | cons child rest ih =>
    have hfirst := h child List.mem_cons_self
    have hrest := ih fun c hc => h c (List.mem_cons_of_mem _ hc)
    rw [renderEach, ofQueries?, hfirst, hrest]
    rfl

theorem mapM_pattern?_wildcard (pattern : String) (fields : List String) :
    (fields.map fun field => Query.wildcard field pattern).mapM Query.pattern? =
      some (fields.map fun field => (field, pattern)) := by
  induction fields with
  | nil => rfl
  | cons field rest ih => rw [List.map_cons, List.mapM_cons, ih]; rfl

theorem ofQuery?_wildcard (pattern field : String) (rest : List String) :
    ofQuery? (wildcard pattern (field :: rest)).render = some (.wildcard pattern (field :: rest)) := by
  have hread := mapM_pattern?_wildcard pattern (field :: rest)
  have hfields : (rest.map fun field => (field, pattern)).map Prod.fst = rest := by
    rw [List.map_map]
    exact List.map_id rest
  have hmatch : ofQuery? (wildcard pattern (field :: rest)).render =
      some (.wildcard pattern (field :: (rest.map fun field => (field, pattern)).map Prod.fst)) := by
    simp only [render, Query.should, Query.single, ofQuery?, hread]
    rfl
  rw [hmatch, hfields]

def PatternsHaveFields : Filter → Prop :=
  Everywhere fun node => ∀ pattern fields, node = .wildcard pattern fields → fields ≠ []

theorem patternsHaveFields_group (join : Join) {children : List Filter} :
    (join.group children).PatternsHaveFields ↔ ∀ child ∈ children, child.PatternsHaveFields :=
  everywhere_group.trans (and_iff_right fun _ _ hgroup => by cases join <;> cases hgroup)

/-- A query tells which filter it was made of, up to terms of list fields. -/
theorem ofQuery?_render {f : Filter} (h : f.PatternsHaveFields) : ofQuery? f.render = some f.plain := by
  induction f with
  | term | contains | present | nothing => rfl
  | matching mode text fields =>
    have hprobe := Probe.ofQuery?_multiMatch mode text fields
    change (Probe.ofQuery? (Query.multiMatch text mode.name fields)).bind ofProbe? = _
    rw [hprobe]
    rfl
  | wildcard pattern fields =>
    have hfields : fields ≠ [] := (everywhere_leaf rfl).1 h pattern fields rfl
    obtain ⟨field, rest, rfl⟩ := List.exists_cons_of_ne_nil hfields
    exact ofQuery?_wildcard pattern field rest
  | not inner ih =>
    rw [render, ofQuery?_mustNot, ih (everywhere_not.1 h).2]
    rfl
  | all children ih =>
    have hchildren := (patternsHaveFields_group .all).1 h
    have hread := ofQueries?_eq fun child hchild => ih child hchild (hchildren child hchild)
    change (ofQueries? (renderEach children)).map Filter.all = _
    rw [hread]
    rfl
  | any children ih =>
    have hchildren := (patternsHaveFields_group .any).1 h
    have hread := ofQueries?_eq fun child hchild => ih child hchild (hchildren child hchild)
    have hnone : (renderEach children).mapM Query.pattern? = none ∨ renderEach children = [] := by
      cases children with
      | nil => exact .inr rfl
      | cons child rest =>
        left
        rw [renderEach, List.mapM_cons, pattern?_render]
        rfl
    rw [render, ofQuery?_should_of_none hnone, hread]
    rfl
  | nested path inner ih =>
    change (ofQuery? inner.render).map (Filter.nested path) = _
    rw [ih (everywhere_nested.1 h).2]
    rfl

def kind : Filter → Option String × Option String
  | .term _ _ => (some "term", none)
  | .contains _ _ => (some "term", none)
  | .matching _ _ _ => (some "multi_match", none)
  | .wildcard _ _ => (some "bool", some "should")
  | .not _ => (some "bool", some "must_not")
  | .present _ => (some "exists", none)
  | .nothing => (some "bool", some "must_not")
  | .all _ => (some "bool", some "must")
  | .any _ => (some "bool", some "should")
  | .nested _ _ => (some "nested", none)

theorem kind_render (f : Filter) : Query.kind f.render = f.kind := by
  cases f <;> rfl

theorem exists_render_eq_single (f : Filter) : ∃ name v, f.render = Query.single name v := by
  cases f <;> exact ⟨_, _, rfl⟩

theorem kind_eq_of_render_same {f : Filter} {y : Json} (h : f.render.same y = true) : f.kind = Query.kind y := by
  obtain ⟨name, v, hrender⟩ := f.exists_render_eq_single
  rw [← kind_render, hrender]
  rw [hrender] at h
  exact Query.kind_eq_of_same h

theorem kind_eq_kind {f g : Filter} (h : f.render.same g.render = true) : f.kind = g.kind :=
  (kind_eq_of_render_same h).trans g.kind_render

theorem sameItems_renderEach_iff {xs ys : List Filter} :
    Json.sameItems (renderEach xs) (renderEach ys) = true ↔
      List.Forall₂ (fun x y => x.render.same y.render = true) xs ys := by
  induction xs generalizing ys with
  | nil => cases ys <;> simp [renderEach, Json.sameItems]
  | cons x xs ih => cases ys <;> simp [renderEach, Json.sameItems, ih]

theorem sameEach_plainEach_iff {xs ys : List Filter} :
    sameEach (plainEach xs) (plainEach ys) = true ↔ List.Forall₂ (fun x y => Same x.plain y.plain) xs ys := by
  rw [sameEach_iff, plainEach_eq_map, plainEach_eq_map, List.forall₂_map_left_iff, List.forall₂_map_right_iff]

theorem render_same {f g : Filter} (h : Same f g) : f.render.same g.render = true := by
  induction f generalizing g with
  | term =>
    cases g with
    | term => simpa [render, Same, same, Query.same_term] using h
    | _ => cases h
  | contains =>
    cases g with
    | contains => simpa [render, Same, same, Query.same_term] using h
    | _ => cases h
  | matching mode text fields =>
    cases g with
    | matching => simp_all [render, Same, same, Query.same_multiMatch]
    | _ => cases h
  | wildcard pattern fields =>
    cases g with
    | wildcard => simp_all [render, Same, same, Query.same_should, Query.sameItems_wildcard]
    | _ => cases h
  | present field =>
    cases g with
    | present => simpa [render, Same, same, Query.same_present] using h
    | _ => cases h
  | nothing =>
    cases g with
    | nothing => rfl
    | _ => cases h
  | not inner ih =>
    cases g with
    | not other =>
      rw [render, render, Query.same_mustNot]
      exact ih h
    | _ => cases h
  | all children ih =>
    obtain ⟨ys, rfl, hys⟩ := (same_group_iff .all).1 h
    change (Query.must (renderEach children)).same (Query.must (renderEach ys)) = true
    rw [Query.same_must, sameItems_renderEach_iff]
    exact forall₂_imp_of_mem hys fun x hx y _ => ih x hx
  | any children ih =>
    obtain ⟨ys, rfl, hys⟩ := (same_group_iff .any).1 h
    change (Query.should (renderEach children)).same (Query.should (renderEach ys)) = true
    rw [Query.same_should, sameItems_renderEach_iff]
    exact forall₂_imp_of_mem hys fun x hx y _ => ih x hx
  | nested path inner ih =>
    cases g with
    | nested other query =>
      rw [Same, same, Bool.and_eq_true] at h
      rw [render, render, Query.same_nested, h.1, ih h.2]
      rfl
    | _ => cases h

/-- A filter is never rendered to the query for everything, nor to that for a pattern in one field. -/
theorem kind_ne (f : Filter) : f.kind ≠ (some "match_all", none) ∧ f.kind ≠ (some "wildcard", none) := by
  cases f <;> simp [kind]

theorem sameItems_wildcard_ne {pattern : String} {fields : List String} (h : fields ≠ [])
    (children : List Filter) :
    Json.sameItems (fields.map (Query.wildcard · pattern)) (renderEach children) = false ∧
      Json.sameItems (renderEach children) (fields.map (Query.wildcard · pattern)) = false := by
  obtain ⟨field, rest, rfl⟩ := List.exists_cons_of_ne_nil h
  cases children with
  | nil => exact ⟨rfl, rfl⟩
  | cons child others =>
    have hleft : (Query.wildcard field pattern).same child.render = false := by
      rw [← Bool.not_eq_true]
      intro hsame
      exact child.kind_ne.2 (child.kind_render.symm.trans (Query.kind_eq_of_same hsame).symm)
    have hright : child.render.same (Query.wildcard field pattern) = false := by
      rw [← Bool.not_eq_true]
      intro hsame
      exact child.kind_ne.2 (kind_eq_of_render_same hsame)
    rw [renderEach, List.map_cons, Json.sameItems, Json.sameItems, hleft, hright]
    exact ⟨rfl, rfl⟩

theorem render_not_same_matchAll (f : Filter) :
    ¬ f.render.same Query.matchAll = true ∧ ¬ Query.matchAll.same f.render = true :=
  ⟨fun h => f.kind_ne.1 (kind_eq_of_render_same h),
    fun h => f.kind_ne.1 (f.kind_render.symm.trans (Query.kind_eq_of_same h).symm)⟩

theorem sameEach_plainEach {xs ys : List Filter} (hxs : ∀ x ∈ xs, x.PatternsHaveFields)
    (hys : ∀ y ∈ ys, y.PatternsHaveFields)
    (h : ∀ x ∈ xs, ∀ y : Filter, x.PatternsHaveFields → y.PatternsHaveFields →
      x.render.same y.render = true → x.kind = y.kind → Same x.plain y.plain)
    (hsame : Json.sameItems (renderEach xs) (renderEach ys) = true) :
    sameEach (plainEach xs) (plainEach ys) = true := by
  refine sameEach_plainEach_iff.2 (forall₂_imp_of_mem (sameItems_renderEach_iff.1 hsame) ?_)
  intro x hx y hy hrender
  exact h x hx y (hxs x hx) (hys y hy) hrender (kind_eq_kind hrender)

theorem plain_same_of_render_same {f g : Filter} (hf : f.PatternsHaveFields) (hg : g.PatternsHaveFields)
    (h : f.render.same g.render = true) : Same f.plain g.plain := by
  have hkind := kind_eq_kind h
  -- Queries of one kind come from filters of one kind but for terms, for alternatives and for what is negated.
  induction f generalizing g with
  | term field value | contains field value =>
    cases g with
    | term | contains => simpa [render, plain, Same, same, Query.same_term] using h
    | _ => simp [kind] at hkind
  | matching mode text fields =>
    cases g with
    | matching other => cases mode <;> cases other <;>
        simp_all [render, plain, Same, same, Query.same_multiMatch, MatchMode.name]
    | _ => simp [kind] at hkind
  | wildcard pattern fields =>
    have hfields : fields ≠ [] := (everywhere_leaf rfl).1 hf pattern fields rfl
    cases g with
    | wildcard => simpa [render, plain, Same, same, Query.same_should, Query.sameItems_wildcard, hfields] using h
    | any children =>
      rw [render, render, Query.same_should, (sameItems_wildcard_ne hfields children).1] at h
      cases h
    | _ => simp [kind] at hkind
  | present field =>
    cases g with
    | present => simpa [render, plain, Same, same, Query.same_present] using h
    | _ => simp [kind] at hkind
  | nothing =>
    cases g with
    | nothing => rfl
    | not inner =>
      rw [render, render, Query.matchNone, Query.same_mustNot] at h
      exact absurd h inner.render_not_same_matchAll.2
    | _ => simp [kind] at hkind
  | not inner ih =>
    cases g with
    | nothing =>
      rw [render, render, Query.matchNone, Query.same_mustNot] at h
      exact absurd h inner.render_not_same_matchAll.1
    | not other =>
      rw [render, render, Query.same_mustNot] at h
      exact ih (everywhere_not.1 hf).2 (everywhere_not.1 hg).2 h (kind_eq_kind h)
    | _ => simp [kind] at hkind
  | all children ih =>
    cases g with
    | all others =>
      rw [render, render, Query.same_must] at h
      have hxs := (patternsHaveFields_group .all).1 hf
      have hys := (patternsHaveFields_group .all).1 hg
      exact sameEach_plainEach hxs hys (fun x hx y => ih x hx) h
    | _ => simp [kind] at hkind
  | any children ih =>
    cases g with
    | any others =>
      rw [render, render, Query.same_should] at h
      have hxs := (patternsHaveFields_group .any).1 hf
      have hys := (patternsHaveFields_group .any).1 hg
      exact sameEach_plainEach hxs hys (fun x hx y => ih x hx) h
    | wildcard pattern fields =>
      have hfields : fields ≠ [] := (everywhere_leaf rfl).1 hg pattern fields rfl
      rw [render, render, Query.same_should, (sameItems_wildcard_ne hfields children).2] at h
      cases h
    | _ => simp [kind] at hkind
  | nested path inner ih =>
    cases g with
    | nested other query =>
      rw [render, render, Query.same_nested, Bool.and_eq_true] at h
      have hinner := ih (everywhere_nested.1 hf).2 (everywhere_nested.1 hg).2 h.2 (kind_eq_kind h.2)
      rw [plain, plain, Same, same, h.1, hinner]
      rfl
    | _ => simp [kind] at hkind

/-- Filters that are equal up to terms of list fields have equal queries, and where each pattern has a field to
look in, only those have: a query tells its filter. Both is meant of the values themselves, and of equality as it
is decided, which does not see the order of members. -/
theorem render_tells (f g : Filter) :
    (f.plain = g.plain → f.render = g.render) ∧
      (f.plain.same g.plain = true → f.render.same g.render = true) ∧
      (f.PatternsHaveFields → g.PatternsHaveFields →
        (f.render = g.render → f.plain = g.plain) ∧
          (f.render.same g.render = true → f.plain.same g.plain = true)) := by
  refine ⟨fun h => ?_, fun h => ?_, fun hf hg => ⟨fun h => ?_, plain_same_of_render_same hf hg⟩⟩
  · rw [← render_plain f, h, render_plain]
  · rw [← render_plain f, ← render_plain g]
    exact render_same h
  · have hread := congrArg ofQuery? h
    rw [ofQuery?_render hf, ofQuery?_render hg] at hread
    exact Option.some.inj hread

/-- Without a field, the query of a pattern is that of no alternatives. -/
example : (wildcard "probe*" []).render = (any []).render := rfl

end Filter
end CatalogSearch
