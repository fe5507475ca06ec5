import CatalogSearch.Json.Record
/-!
Hits of a search and the pages that are made of them, with their JSON forms.
-/
namespace CatalogSearch

structure SearchHit where
  id : String
  source : Json
deriving Repr

/-- The total counts all matches, not the hits at hand. -/
structure SearchHits where
  total : UInt64
  hits : List SearchHit
deriving Repr

structure Listing where
  total : UInt64
  items : List Json
deriving Repr

namespace SearchHit

def addId (id : String) (members : List (String × Json)) : List (String × Json) :=
  if (Table.find? members "id").isSome then members else members ++ [("id", .string id)]

/-- The indexed document. A source that is no object gives a document with only the identifier. -/
def document (hit : SearchHit) : Json :=
  match hit.source with
  | .object members => .object (addId hit.id members)
  | _ => .object [("id", .string hit.id)]

def toJson (hit : SearchHit) : Json := .object [("id", .string hit.id), ("source", hit.source)]

def decode : Json.Decoder SearchHit := fun room d => do
  let r ← Json.Record.open? ["id", "source"] room d
  let id ← r.required "id" .text
  let source ← r.required "source" .value
  pure { id, source }

end SearchHit

namespace SearchHits

def toJson (hits : SearchHits) : Json :=
  .object [("total", .ofWord hits.total), ("hits", .array (hits.hits.map SearchHit.toJson))]

def decode : Json.Decoder SearchHits := fun room d => do
  let r ← Json.Record.open? ["total", "hits"] room d
  let total ← r.required "total" .word
  let hits ← r.required "hits" (.list SearchHit.decode)
  pure { total, hits }

end SearchHits

namespace Listing

def toJson (l : Listing) : Json := .object [("total", .ofWord l.total), ("items", .array l.items)]

def decode : Json.Decoder Listing := fun room d => do
  let r ← Json.Record.open? ["total", "items"] room d
  let total ← r.required "total" .word
  let items ← r.required "items" (.list .value)
  pure { total, items }

end Listing
end CatalogSearch
