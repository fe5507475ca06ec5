import CatalogSearch.Number.Binary64
import CatalogSearch.Table
/-!
JSON values. An object is the list of its members in order, and no name occurs in it twice; equality of
values (`same`) does not see that order.
-/
namespace CatalogSearch

/-- An integer is unsigned of 64 bits or negative and signed of 64 bits; every other number is binary. -/
inductive Json.Number where
  | int (n : Int)
  | float (x : Binary64)
deriving DecidableEq, Repr

inductive Json where
  | null
  | bool (b : Bool)
  | number (n : Json.Number)
  | string (s : String)
  | array (items : List Json)
  | object (members : List (String × Json))
deriving Repr, Inhabited

namespace Json

/-- An integer and a binary number are never equal; the two binary zeros are. -/
def Number.same : Number → Number → Bool
  | .int m, .int n => m == n
  | .float x, .float y => Binary64.same x y
  | _, _ => false

def ofNat (n : Nat) : Json := .number (.int n)

def ofWord (n : UInt64) : Json := ofNat n.toNat

def ofStrings (items : List String) : Json := .array (items.map .string)

def text? : Json → Option String
  | .string s => some s
  | _ => none

def items? : Json → Option (List Json)
  | .array items => some items
  | _ => none

def isNull : Json → Bool
  | .null => true
  | _ => false

mutual

/-- Equality of values: members are compared by name, wherever they stand. -/
def same : Json → Json → Bool
  | .null, .null => true
  | .bool a, .bool b => a == b
  | .number m, .number n => m.same n
  | .string s, .string t => s == t
  | .array xs, .array ys => sameItems xs ys
  | .object ms, .object ns => ms.length == ns.length && sameMembers ms ns
  | _, _ => false

def sameItems : List Json → List Json → Bool
  | [], [] => true
  | x :: xs, y :: ys => same x y && sameItems xs ys
  | _, _ => false

def sameMembers : List (String × Json) → List (String × Json) → Bool
  | [], _ => true
  | (name, x) :: rest, ns =>
    (match Table.find? ns name with
      | some y => same x y
      | none => false) && sameMembers rest ns

end

end Json
end CatalogSearch
