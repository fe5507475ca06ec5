import CatalogSearch.Filter
import CatalogSearch.Query
/-!
Filters as queries of the search engine.
-/
namespace CatalogSearch.Filter

mutual

def render : Filter → Json
  | .term field value => Query.term field value
  | .contains field value => Query.term field value
  | .matching mode text fields => Query.multiMatch text mode.name fields
  | .wildcard pattern fields => Query.should (fields.map fun field => Query.wildcard field pattern)
  | .not inner => Query.mustNot [render inner]
  | .present field => Query.present field
  | .nothing => Query.matchNone
  | .all children => Query.must (renderEach children)
  | .any children => Query.should (renderEach children)
  | .nested path inner => Query.nested path (render inner)

def renderEach : List Filter → List Json
  | [] => []
  | child :: rest => render child :: renderEach rest

end

theorem renderEach_eq_map (children : List Filter) : renderEach children = children.map render := by
  induction children with
  | nil => rfl
  | cons child rest ih => simp [renderEach, ih]

def queryOf (filter : Option Filter) : Json := (filter.map render).getD Query.matchAll

end CatalogSearch.Filter
