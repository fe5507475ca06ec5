import CatalogSearch.Json
/-!
The queries of the search engine, as the JSON that it takes. A `should` list without clauses matches every
document, so a query that matches none is written with `must_not`.
-/
namespace CatalogSearch.Query

def single (name : String) (value : Json) : Json := .object [(name, value)]

def matchAll : Json := single "match_all" (.object [])

def must (clauses : List Json) : Json := single "bool" (single "must" (.array clauses))

def should (clauses : List Json) : Json := single "bool" (single "should" (.array clauses))

def mustNot (clauses : List Json) : Json := single "bool" (single "must_not" (.array clauses))

def matchNone : Json := mustNot [matchAll]

def term (field : String) (value : Json) : Json := single "term" (single field (single "value" value))

def wildcard (field pattern : String) : Json :=
  single "wildcard" (single field (single "value" (.string pattern)))

def present (field : String) : Json := single "exists" (single "field" (.string field))

def multiMatch (text mode : String) (fields : List String) : Json :=
  single "multi_match" (.object
    [("query", .string text), ("type", .string mode), ("fields", Json.ofStrings fields)])

def nested (path : String) (query : Json) : Json :=
  single "nested" (.object [("path", .string path), ("query", query)])

end CatalogSearch.Query
