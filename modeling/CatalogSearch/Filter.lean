import CatalogSearch.Field
import CatalogSearch.Json
/-!
Filters: what a document has to satisfy to be listed. The functions that build groups never make a group
of one (`all?`, `any?`), and `simplify` removes those that were made by hand.
-/
namespace CatalogSearch

inductive MatchMode where
  | bestFields
  | phrase
deriving DecidableEq, Repr

def MatchMode.name : MatchMode → String
  | .bestFields => "best_fields"
  | .phrase => "phrase"

/-- `contains` is the term of a field that holds a list. `nothing` matches no document; it is what one
value out of none means. -/
inductive Filter where
  | term (field : String) (value : Json)
  | contains (field : String) (value : Json)
  | matching (mode : MatchMode) (text : String) (fields : List String)
  | wildcard (pattern : String) (fields : List String)
  | not (inner : Filter)
  | present (field : String)
  | nothing
  | all (children : List Filter)
  | any (children : List Filter)
  | nested (path : String) (inner : Filter)
deriving Repr, Inhabited

namespace Filter

def phrase (text : String) (fields : List String) : Filter := .matching .phrase text fields

/-- The conjunction of several, the one itself, or no filter. -/
def all? : List Filter → Option Filter
  | [] => none
  | [child] => some child
  | children => some (.all children)

def any? : List Filter → Option Filter
  | [] => none
  | [child] => some child
  | children => some (.any children)

/-- Equal to one of the values; no document is equal to one of none. -/
def oneOf (field : String) (values : List Json) : Filter :=
  (any? (values.map (.term field))).getD .nothing

/-- The conjunction of those that are there. -/
def combine (parts : List (Option Filter)) : Option Filter := all? (parts.filterMap id)

def inScopes (field : String) (inner : Filter) : Filter := (Field.scopes field).foldr .nested inner

def collapse (group : List Filter → Filter) : List Filter → Filter
  | [child] => child
  | children => group children

mutual

def simplify : Filter → Filter
  | .all children => collapse .all (simplifyEach children)
  | .any children => collapse .any (simplifyEach children)
  | .not inner => .not (simplify inner)
  | .nested path inner => .nested path (simplify inner)
  | leaf => leaf

def simplifyEach : List Filter → List Filter
  | [] => []
  | child :: rest => simplify child :: simplifyEach rest

end

theorem simplifyEach_eq_map (children : List Filter) : simplifyEach children = children.map simplify := by
  induction children with
  | nil => rfl
  | cons child rest ih => simp [simplifyEach, ih]

mutual

/-- Equality of filters, values in terms being compared as values. -/
def same : Filter → Filter → Bool
  | .term f v, .term g w => f == g && v.same w
  | .contains f v, .contains g w => f == g && v.same w
  | .matching m t fs, .matching n u gs => m == n && t == u && fs == gs
  | .wildcard p fs, .wildcard q gs => p == q && fs == gs
  | .not a, .not b => same a b
  | .present f, .present g => f == g
  | .nothing, .nothing => true
  | .all xs, .all ys => sameEach xs ys
  | .any xs, .any ys => sameEach xs ys
  | .nested p a, .nested q b => p == q && same a b
  | _, _ => false

def sameEach : List Filter → List Filter → Bool
  | [], [] => true
  | x :: xs, y :: ys => same x y && sameEach xs ys
  | _, _ => false

end

end Filter
end CatalogSearch
