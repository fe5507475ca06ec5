import CatalogSearch.Search.Address
import CatalogSearch.Search.Request
import CatalogSearch.Search.Response
import CatalogSearch.Settings
/-!
The client of the search engine: one POST request a search, and what its reply means.
-/
namespace CatalogSearch

structure Post where
  address : Address
  body : String
deriving DecidableEq, Repr

structure Reply where
  status : Nat
  body : String
deriving DecidableEq, Repr

abbrev Server := Post → Option Reply

structure SearchClient where
  base : String
  indexStem : String
deriving DecidableEq, Repr

namespace SearchClient

/-- Slashes at the end of the configured address are dropped. -/
def ofSettings (s : SearchSettings) : Except ServiceError SearchClient :=
  match s.address? with
  | some url => pure ⟨String.ofList (url.toList.reverse.dropWhile (· == '/')).reverse, s.indexStem⟩
  | none => throw (.validation .urlMissing)

def url (c : SearchClient) (index : String) : String :=
  c.base ++ "/" ++ c.indexStem ++ index ++ "/_search"

def post? (c : SearchClient) (index : String) (request : SearchRequest) : Option Post :=
  (Address.parse? (c.url index)).map fun address => ⟨address, request.body.compact⟩

def bodyText (body : String) : String :=
  match body.toList with
  | '\ufeff' :: rest => String.ofList rest
  | _ => body

/-- An interim reply is no answer, and no other one follows. -/
def readReply (index : String) (reply : Reply) : Except ServiceError SearchHits :=
  let body := if Status.isBodiless reply.status then "" else reply.body
  if Status.isInterim reply.status then throw .transport
  else if Status.isSuccess reply.status then
    match Response.hits? body with
    | some hits => pure hits
    | none => throw (.search .unexpectedResponse)
  else throw (.search (.status index reply.status (bodyText body)))

def search (c : SearchClient) (server : Server) (index : String) (request : SearchRequest) :
    Except ServiceError SearchHits :=
  match (c.post? index request).bind server with
  | some reply => readReply index reply
  | none => throw .transport

end SearchClient
end CatalogSearch
