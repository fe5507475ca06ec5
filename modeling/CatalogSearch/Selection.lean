import CatalogSearch.Criterion
import CatalogSearch.Json.Reader
import CatalogSearch.Terms.Clause
import CatalogSearch.Terms.Token
/-!
Selections: the query text and the structured filter of a request, compiled together into one filter.
-/
namespace CatalogSearch

structure Selection where
  text : Option String
  criteria : Option Json
  policy : Policy
deriving Repr

namespace Selection

def empty : Selection := ⟨none, none, .lenient⟩

def setText (s : Selection) (text : String) : Selection :=
  { s with text := if Text.isBlankText text then none else some text }

/-- Whether a filter value asks for nothing: null, or a list of no elements. -/
def asksNothing : Json → Bool
  | .null => true
  | .array [] => true
  | _ => false

def setCriteria (s : Selection) (value : Json) : Selection :=
  { s with criteria := if asksNothing value then none else some value }

def withPolicy (s : Selection) (policy : Policy) : Selection := { s with policy }

def isActive (s : Selection) : Bool := s.text.isSome || s.criteria.isSome

def textFilter (s : Selection) (fields : List String) : Option Filter :=
  s.text.bind fun text => Clause.interpret fields (Token.tokenize text)

def criteriaFilter (s : Selection) : Except FilterError (Option Filter) :=
  match s.criteria with
  | some value => Criteria.filter? s.policy value
  | none => pure none

def compile (s : Selection) (fields : List String) : Except FilterError (Option Filter) := do
  let structured ← s.criteriaFilter
  pure ((Filter.combine [s.textFilter fields, structured]).map Filter.simplify)

def count (key : String) (items : List (String × String)) : Nat :=
  (items.filter fun item => item.1 == key).length

def takeItem (s : Selection) (item : String × String) : Except FilterError Selection :=
  if item.1 = "q" then pure (s.setText item.2)
  else if item.1 = "filter" then
    match Json.read? item.2 with
    | some value => pure (s.setCriteria value)
    | none => throw .notJson
  else pure s

/-- Each of `q` and `filter` may be given once, and that is looked at before the filter is decoded. -/
def ofItems (items : List (String × String)) : Except FilterError Selection := do
  if 1 < count "q" items then throw (.repeatedParameter "q")
  if 1 < count "filter" items then throw (.repeatedParameter "filter")
  items.foldlM takeItem empty

end Selection
end CatalogSearch
