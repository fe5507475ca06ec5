import CatalogSearch.FilterError
import CatalogSearch.Query
import CatalogSearch.Text.Blank
/-!
Sort orders. They are written as field names between commas, a dash before a name for the descending order.
-/
namespace CatalogSearch

structure SortField where
  field : String
  descending : Bool
deriving DecidableEq, Repr

namespace SortField

def asc (field : String) : SortField := ⟨field, false⟩

def desc (field : String) : SortField := ⟨field, true⟩

/-- One segment between commas. A blank one is passed over, and a dash alone is an error. -/
def ofSegment (raw : List Char) : Except FilterError (Option SortField) :=
  match Text.trim raw with
  | [] => pure none
  | '-' :: rest =>
    match Text.trim rest with
    | [] => throw (.sort (String.ofList raw))
    | name => pure (some (desc (String.ofList name)))
  | name => pure (some (asc (String.ofList name)))

def ofSegments : List (List Char) → Except FilterError (List SortField)
  | [] => pure []
  | raw :: rest => do
    let first ← ofSegment raw
    let others ← ofSegments rest
    pure (first.toList ++ others)

def parseList (text : String) : Except FilterError (List SortField) :=
  ofSegments (text.toList.splitOn ',')

def direction (s : SortField) : String := if s.descending then "desc" else "asc"

def render (s : SortField) : Json := Query.single s.field (.string s.direction)

end SortField
end CatalogSearch
