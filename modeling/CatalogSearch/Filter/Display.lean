import CatalogSearch.Filter
import CatalogSearch.Json.Printer
import CatalogSearch.Text.Quoted
/-!
Filters on one line for messages.
-/
namespace CatalogSearch.Filter

def fieldList (fields : List String) : String := String.intercalate "|" fields

def call (name : String) (arguments : List String) : String :=
  name ++ "(" ++ String.intercalate ", " arguments ++ ")"

mutual

def display : Filter → String
  | .term field value => call "term" [field ++ "=" ++ value.compact]
  | .contains field value => call "any" [field ++ "=" ++ value.compact]
  | .matching mode text fields =>
    call ("match[" ++ mode.name ++ "]") [Text.quoted text ++ " in " ++ fieldList fields]
  | .wildcard pattern fields => call "wildcard" [Text.quoted pattern ++ " in " ++ fieldList fields]
  | .not inner => call "not" [display inner]
  | .present field => call "exists" [field]
  | .nothing => "none"
  | .all children => call "and" (displayEach children)
  | .any children => call "or" (displayEach children)
  | .nested path inner => call ("nested[" ++ path ++ "]") [display inner]

def displayEach : List Filter → List String
  | [] => []
  | child :: rest => display child :: displayEach rest

end

end CatalogSearch.Filter
