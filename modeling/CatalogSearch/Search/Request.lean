import CatalogSearch.Page
import CatalogSearch.Query
/-!
A search request: a query with its page and order, and the body that carries it.
-/
namespace CatalogSearch

structure SearchRequest where
  query : Json
  page : Page
  sort : List Json
deriving Repr

namespace SearchRequest

-- How many hits come before those of the page.
def start (r : SearchRequest) : UInt64 := r.page.offset

/-- An order that asks for nothing is left out. -/
def body (r : SearchRequest) : Json :=
  let sort := if r.sort.isEmpty then [] else [("sort", Json.array r.sort)]
  .object ([
    ("query", r.query),
    ("from", .ofWord r.start),
    ("size", .ofWord r.page.size),
    ("track_total_hits", .bool true)] ++ sort)

end SearchRequest
end CatalogSearch
