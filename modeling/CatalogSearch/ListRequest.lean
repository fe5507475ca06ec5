import CatalogSearch.Page
import CatalogSearch.Selection
import CatalogSearch.ServiceError
import CatalogSearch.SortField
/-!
List requests: the query parameters of a collection in the order of the request.
-/
namespace CatalogSearch

structure ListRequest where
  items : List (String × String)
deriving DecidableEq, Repr

namespace ListRequest

def empty : ListRequest := ⟨[]⟩

def ofItems (items : List (String × String)) : ListRequest := ⟨items⟩

def add (r : ListRequest) (key value : String) : ListRequest := ⟨r.items ++ [(key, value)]⟩

def values (r : ListRequest) (key : String) : List String :=
  r.items.filterMap fun item => if item.1 = key then some item.2 else none

def get? (r : ListRequest) (key : String) : Option String := (r.values key).head?

def selection (r : ListRequest) : Except ServiceError Selection :=
  ServiceError.liftFilter (Selection.ofItems r.items)

def page (r : ListRequest) (defaultSize : UInt64) : Except ServiceError Page :=
  ServiceError.liftFilter (Page.ofItems r.items defaultSize)

/-- The order asked for. It may be given only once, even where two would agree. -/
def sort (r : ListRequest) : Except ServiceError (List SortField) :=
  match r.values "sort" with
  | [] => pure []
  | [text] => ServiceError.liftFilter (SortField.parseList text)
  | _ => throw (.validation .repeatedSort)

end ListRequest
end CatalogSearch
