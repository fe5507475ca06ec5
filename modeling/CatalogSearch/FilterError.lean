import CatalogSearch.Json.Printer
/-!
What can be wrong with the search parameters of a request, and how each fault is worded.
-/
namespace CatalogSearch

inductive Malformation where
  | notAnObject
  | groupWithoutList
  | unknownOperation
  | nameMissing
  | emptySegment
  | valueMissing
  | listExpected
  | unknownShape
deriving DecidableEq, Repr

def Malformation.reason : Malformation → String
  | .notAnObject => "filter element must be an object"
  | .groupWithoutList => "'or'/'and' must hold a list"
  | .unknownOperation => "unsupported 'op'"
  | .nameMissing => "missing 'name'"
  | .emptySegment => "field name has an empty segment"
  | .valueMissing => "missing 'val'"
  | .listExpected => "'in_' expects a list value"
  | .unknownShape => "expected 'or', 'and', 'op' or a single field"

inductive FilterError where
  | repeatedParameter (name : String)
  | notJson
  | malformed (reason : Malformation) (element : Json)
  | page (name : String) (value : String)
  | sort (segment : String)
deriving Repr

namespace FilterError

def invalidFilter (detail : String) : String := "Invalid filter: " ++ detail

def invalidPage (name value : String) : String := "Invalid pagination parameter " ++ name ++ ": " ++ value

def invalidSort (detail : String) : String := "Invalid sort parameter: " ++ detail

def message : FilterError → String
  | .repeatedParameter name => invalidFilter ("parameter '" ++ name ++ "' must not appear more than once")
  | .notJson => invalidFilter "filter is not valid JSON"
  | .malformed reason element => invalidFilter (reason.reason ++ ": " ++ element.compact)
  | .page name value => invalidPage name value
  | .sort segment => invalidSort segment

end FilterError
end CatalogSearch
