import CatalogSearch.Filter.Mode
import CatalogSearch.Query
/-!
The meaning of queries to a search engine. An engine has the objects that lie inside other objects and says
which objects pass a probe; nothing is assumed of either, so what is proved of an engine holds for every index
and every document. `finds` reads queries as JSON, and the theorems after it say what it makes of each query
that is written here.
-/
namespace CatalogSearch

universe u

inductive Probe where
  | term (field : String) (value : Json)
  | present (field : String)
  | wildcard (field pattern : String)
  | matching (mode : MatchMode) (text : String) (fields : List String)
deriving Repr

/-- The probe that a query is, by the grammar of the search engine. -/
def Probe.ofQuery? : Json → Option Probe
  | .object [("term", .object [(field, .object [("value", value)])])] => some (.term field value)
  | .object [("exists", .object [("field", .string field)])] => some (.present field)
  | .object [("wildcard", .object [(field, .object [("value", .string pattern)])])] =>
    some (.wildcard field pattern)
  | .object [("multi_match", .object
      [("query", .string text), ("type", .string mode), ("fields", .array fields)])] => do
    let mode ← MatchMode.ofName? mode
    let fields ← fields.mapM Json.text?
    pure (.matching mode text fields)
  | _ => none

theorem Probe.ofQuery?_multiMatch (mode : MatchMode) (text : String) (fields : List String) :
    ofQuery? (Query.multiMatch text mode.name fields) = some (.matching mode text fields) := by
  have texts : (fields.map Json.string).mapM Json.text? = some fields := by
    induction fields with
    | nil => rfl
    | cons field rest ih => rw [List.map_cons, List.mapM_cons, ih]; rfl
  simp only [Query.multiMatch, Query.single, Json.ofStrings, ofQuery?, MatchMode.ofName?_name, texts]
  rfl

/-- What an engine knows by itself: the objects inside an object at a path, the objects that pass a probe, and
those that match a query of a kind that is not written here. -/
structure Engine (Object : Type u) where
  inside : String → Object → List Object
  passes : Probe → Object → Bool
  other : Json → Object → Bool

namespace Engine
variable {Object : Type u} (e : Engine Object)

def leaf (query : Json) (o : Object) : Bool :=
  match Probe.ofQuery? query with
  | some probe => e.passes probe o
  | none => e.other query o

mutual

/-- Whether a query matches an object. Of a `should` list one clause has to match, but a list without clauses
matches everything. -/
def finds : Json → Object → Bool
  | .object [("match_all", .object [])], _ => true
  | .object [("bool", .object [("must", .array clauses)])], o => findsEach clauses o
  | .object [("bool", .object [("must_not", .array clauses)])], o => !findsSome clauses o
  | .object [("bool", .object [("should", .array clauses)])], o => clauses.isEmpty || findsSome clauses o
  | .object [("nested", .object [("path", .string path), ("query", query)])], o =>
    (e.inside path o).any fun inner => finds query inner
  | query, o => e.leaf query o

def findsEach : List Json → Object → Bool
  | [], _ => true
  | clause :: rest, o => finds clause o && findsEach rest o

def findsSome : List Json → Object → Bool
  | [], _ => false
  | clause :: rest, o => finds clause o || findsSome rest o

end

theorem findsEach_eq_all (clauses : List Json) (o : Object) :
    e.findsEach clauses o = clauses.all fun clause => e.finds clause o := by
  induction clauses with
  | nil => rfl
  | cons clause rest ih => rw [findsEach, ih, List.all_cons]

theorem findsSome_eq_any (clauses : List Json) (o : Object) :
    e.findsSome clauses o = clauses.any fun clause => e.finds clause o := by
  induction clauses with
  | nil => rfl
  | cons clause rest ih => rw [findsSome, ih, List.any_cons]

@[simp]
theorem finds_matchAll (o : Object) : e.finds Query.matchAll o = true := rfl

@[simp]
theorem finds_must (clauses : List Json) (o : Object) :
    e.finds (Query.must clauses) o = clauses.all fun clause => e.finds clause o :=
  e.findsEach_eq_all clauses o

@[simp]
theorem finds_mustNot (clauses : List Json) (o : Object) :
    e.finds (Query.mustNot clauses) o = !clauses.any fun clause => e.finds clause o :=
  congrArg not (e.findsSome_eq_any clauses o)

@[simp]
theorem finds_should (clauses : List Json) (o : Object) :
    e.finds (Query.should clauses) o = (clauses.isEmpty || clauses.any fun clause => e.finds clause o) :=
  congrArg (clauses.isEmpty || ·) (e.findsSome_eq_any clauses o)

@[simp]
theorem finds_nested (path : String) (query : Json) (o : Object) :
    e.finds (Query.nested path query) o = (e.inside path o).any fun inner => e.finds query inner := rfl

@[simp]
theorem finds_matchNone (o : Object) : e.finds Query.matchNone o = false := rfl

@[simp]
theorem finds_term (field : String) (value : Json) (o : Object) :
    e.finds (Query.term field value) o = e.passes (.term field value) o := rfl

@[simp]
theorem finds_present (field : String) (o : Object) :
    e.finds (Query.present field) o = e.passes (.present field) o := rfl

@[simp]
theorem finds_wildcard (field pattern : String) (o : Object) :
    e.finds (Query.wildcard field pattern) o = e.passes (.wildcard field pattern) o := rfl

@[simp]
theorem finds_multiMatch (mode : MatchMode) (text : String) (fields : List String) (o : Object) :
    e.finds (Query.multiMatch text mode.name fields) o = e.passes (.matching mode text fields) o := by
  change e.leaf (Query.multiMatch text mode.name fields) o = _
  rw [leaf, Probe.ofQuery?_multiMatch]

end Engine

/-- A document by its fields and, under their paths, the objects inside it. -/
inductive Document where
  | mk (fields : List (String × Json)) (parts : List (String × Document))

namespace Document

def fields : Document → List (String × Json)
  | .mk fields _ => fields

def parts : Document → List (String × Document)
  | .mk _ parts => parts

def has (d : Document) (field : String) (value : Json) : Bool :=
  d.fields.any fun entry => entry.1 == field && entry.2.same value

end Document

def Engine.literal : Engine Document where
  inside path d := (d.parts.filter fun part => part.1 == path).map Prod.snd
  passes
    | .term field value, d => d.has field value
    | .present field, d => d.fields.any fun entry => entry.1 == field
    | .wildcard field pattern, d => d.has field (.string pattern)
    | .matching _ text fields, d => fields.any fun field => d.has field (.string text)
  other _ _ := false

end CatalogSearch
