import CatalogSearch.Json.Reader
import CatalogSearch.Search.Hit
/-!
Responses of the search engine. A response is decoded as a whole or not at all.
-/
namespace CatalogSearch.Response

/-- Older servers give the total as a number, newer ones as an object with the number in `value`. Either
way the total must be a JSON value as a whole. -/
def total : Json.Decoder UInt64 := fun room d => do
  let _ ← d.json? room
  match d with
  | .number _ => Json.Decoder.word room d
  | .object _ => do
    let r ← Json.Record.open? ["value"] room d
    r.required "value" .word
  | _ => none

def hit : Json.Decoder SearchHit := fun room d => do
  let r ← Json.Record.open? ["_id", "_source"] room d
  let id ← r.required "_id" .text
  let source ← r.optional "_source" .value .null
  pure { id, source }

def envelope : Json.Decoder SearchHits := fun room d => do
  let r ← Json.Record.open? ["total", "hits"] room d
  let total ← r.required "total" total
  let hits ← r.optional "hits" (.list hit) []
  pure { total, hits }

def decode : Json.Decoder SearchHits := fun room d => do
  let r ← Json.Record.open? ["hits"] room d
  r.required "hits" envelope

def hits? (body : String) : Option SearchHits := do
  let d ← Json.Document.read? body
  decode Json.Document.depthLimit d

end CatalogSearch.Response
