import CatalogSearch.Collaborator
import CatalogSearch.Filter.Render
/-!
The catalogue answers list requests: from the search index where a request asks for something to be found,
from the relational store otherwise.
-/
namespace CatalogSearch

structure Catalog where
  settings : SearchSettings
  entities : EntityRegistry
  visibility : VisibilityRegistry
  relational : RelationalStore
  search : Option SearchBackend
  loader : Option EagerLoader

structure SearchPlan where
  index : String
  request : SearchRequest
deriving Repr

namespace Catalog

def relationalOnly (settings : SearchSettings) (entities : EntityRegistry) (visibility : VisibilityRegistry)
    (relational : RelationalStore) : Catalog :=
  { settings, entities, visibility, relational, search := none, loader := none }

def ofSettings (settings : SearchSettings) (entities : EntityRegistry) (visibility : VisibilityRegistry)
    (relational : RelationalStore) (server : Server) : Except ServiceError Catalog := do
  let catalog := relationalOnly settings entities visibility relational
  if settings.isEnabled then
    let client ← SearchClient.ofSettings settings
    pure { catalog with search := some (client.search server) }
  else pure catalog

def searchEnabled (c : Catalog) : Bool := c.search.isSome

inductive Route where
  | relational
  | search (entity : Entity) (index : String) (backend : SearchBackend) (selection : Selection)

/-- The index answers if there is a backend, the resource has an index and the request asks for something
to be found. The parameters are looked at only when it comes to the last of these. -/
def route (c : Catalog) (resource : String) (request : ListRequest) : Except ServiceError Route :=
  match c.search with
  | none => pure .relational
  | some backend =>
    match c.entities.resolve? resource with
    | none => pure .relational
    | some (entity, index) => do
      let selection ← request.selection
      if selection.isActive then pure (.search entity index backend selection) else pure .relational

def restricted (c : Catalog) (entity : Entity) (selection : Selection) (user : User) :
    Except ServiceError (Option Filter) := do
  let compiled ← ServiceError.liftFilter (selection.compile entity.textFields)
  let visible := c.visibility.filterFor entity.kind user
  pure ((Filter.combine [compiled, visible]).map Filter.simplify)

def allowedPage (c : Catalog) (request : ListRequest) : Except ServiceError Page := do
  let page ← request.page c.settings.defaultPageSize
  if c.settings.maxPageSize < page.size then throw (.tooCostly page.size c.settings.maxPageSize)
  pure page

def planFor (c : Catalog) (entity : Entity) (index : String) (selection : Selection)
    (request : ListRequest) (user : User) : Except ServiceError SearchPlan := do
  let filter ← c.restricted entity selection user
  let page ← c.allowedPage request
  let sort ← request.sort
  pure {
    index
    request := {
      query := Filter.queryOf filter
      page
      sort := sort.map fun s => { s with field := entity.sortField s.field }.render } }

/-- The search call that listing makes; none where listing is relational. -/
def plan (c : Catalog) (resource : String) (request : ListRequest) (user : User) :
    Except ServiceError (Option SearchPlan) := do
  match ← c.route resource request with
  | .relational => pure none
  | .search entity index _ selection => do
    let plan ← c.planFor entity index selection request user
    pure (some plan)

def load (c : Catalog) (entity : Entity) (hits : SearchHits) : Answer (List Json) :=
  match c.loader with
  | some loader => loader.ask entity hits
  | none => pure (hits.hits.map SearchHit.document)

/-- One page of a resource for a user. Once the search route is taken, its errors are the answer. -/
def list (c : Catalog) (resource : String) (request : ListRequest) (user : User) : Answer Listing := do
  match ← c.route resource request with
  | .relational => c.relational.ask resource request user
  | .search entity index backend selection =>
    let plan ← c.planFor entity index selection request user
    let hits ← backend.ask plan.index plan.request
    let items ← c.load entity hits
    pure ⟨hits.total, items⟩

end Catalog
end CatalogSearch
