/-!
Names of document fields: dotted paths through nested objects. `scopes` are the objects that enclose a
field, outermost first.
-/
namespace CatalogSearch.Field

def segments (field : String) : List (List Char) := field.toList.splitOn '.'

/-- No segment is empty; the empty name is one empty segment. -/
def isPath (field : String) : Bool := (segments field).all fun segment => !segment.isEmpty

def scopesFrom (path : List Char) : List (List Char) → List (List Char)
  | [] => []
  | segment :: rest => path :: scopesFrom (path ++ '.' :: segment) rest

/-- All proper dotted beginnings of a name, shortest first. -/
def scopes (field : String) : List String :=
  match segments field with
  | [] => []
  | first :: rest => (scopesFrom first rest).map String.ofList

end CatalogSearch.Field
