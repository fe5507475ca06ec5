import CatalogSearch.FilterError
import CatalogSearch.Search.Status
/-!
What can go wrong with a list request, by who is to blame, and how it is worded.
-/
namespace CatalogSearch

inductive Rejection where
  | filter (error : FilterError)
  | repeatedSort
  | urlMissing
  | zeroPageSize
  | pageSizeAboveMaximum (default maximum : UInt64)
deriving Repr

def Rejection.detail : Rejection → String
  | .filter error => error.message
  | .repeatedSort => "Parameter 'sort' must not appear more than once"
  | .urlMissing => "search.url is not configured"
  | .zeroPageSize => "search.default_page_size must be at least 1"
  | .pageSizeAboveMaximum default maximum =>
    "search.default_page_size (" ++ toString default ++ ") exceeds search.max_page_size ("
      ++ toString maximum ++ ")"

/-- Why a search has no result. A search backend may report a reason in its own words. -/
inductive SearchFailure where
  | reported (detail : String)
  | status (index : String) (code : Nat) (body : String)
  | unexpectedResponse
deriving DecidableEq, Repr

def SearchFailure.detail : SearchFailure → String
  | .reported detail => detail
  | .status index code body =>
    "search on '" ++ index ++ "' failed with status " ++ Status.describe code ++ ": " ++ body
  | .unexpectedResponse => "unexpected search response"

inductive ServiceError where
  | validation (cause : Rejection)
  | tooCostly (size maximum : UInt64)
  | search (cause : SearchFailure)
  | transport
  | relational (detail : String)
  | settings
deriving Repr

namespace ServiceError

def validationText (detail : String) : String := "Validation error: " ++ detail

def tooCostlyText (detail : String) : String := "Operation too costly: " ++ detail

def searchText (detail : String) : String := "Search error: " ++ detail

def relationalText (detail : String) : String := "Relational store error: " ++ detail

def message : ServiceError → String
  | .validation cause => validationText cause.detail
  | .tooCostly size maximum =>
    tooCostlyText ("page size " ++ toString size ++ " exceeds the maximum of " ++ toString maximum)
  | .search cause => searchText cause.detail
  | .transport => "Search backend request failed"
  | .relational detail => relationalText detail
  | .settings => "Configuration error"

def isClientError : ServiceError → Bool
  | .validation _ => true
  | .tooCostly _ _ => true
  | _ => false

def liftFilter {α : Type} : Except FilterError α → Except ServiceError α
  | .ok a => .ok a
  | .error e => .error (.validation (.filter e))

end ServiceError
end CatalogSearch
