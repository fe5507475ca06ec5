import CatalogSearch.Json
import CatalogSearch.Number.Numeral
import CatalogSearch.Number.Real64
/-!
Settings before they have a type: trees that several sources write into, each over what the earlier ones
wrote. A value is converted where a type is asked for.
-/
namespace CatalogSearch

inductive Setting where
  | null
  | flag (b : Bool)
  | int (n : Int)
  | real (x : Real64)
  | text (s : String)
  | list (items : List Setting)
  | table (entries : List (String × Setting))
deriving Repr, Inhabited

namespace Setting

def entries : Setting → Table String Setting
  | .table es => es
  | _ => []

def get? (v : Setting) (key : String) : Option Setting := Table.find? v.entries key

def empty : Setting := .table []

def lowered (s : String) : String := String.ofList (s.toList.map Char.toLower)

mutual

/-- Writes an entry; keys are kept in lower case. A table is written over the old value entry by entry; any
other value replaces it. What is no table becomes one. -/
def set (target : Setting) (key : String) : Setting → Setting
  | .table es =>
    let old := (target.get? (lowered key)).getD empty
    .table (Table.insert target.entries (lowered key) (setAll old es))
  | value => .table (Table.insert target.entries (lowered key) value)

def setAll (target : Setting) : List (String × Setting) → Setting
  | [] => target
  | (key, value) :: rest => setAll (set target key value) rest

end

def ofNumber : Json.Number → Setting
  | .int n =>
    if n ≤ Numeral.greatestInt64 then .int n else .real (Real64.ofDecimal false n.toNat 0)
  | .float x => .real (.finite x)

mutual

def ofJson : Json → Setting
  | .null => .null
  | .bool b => .flag b
  | .number n => ofNumber n
  | .string s => .text s
  | .array items => .list (ofItems items)
  | .object members => .table (ofMembers members)

def ofItems : List Json → List Setting
  | [] => []
  | x :: xs => ofJson x :: ofItems xs

def ofMembers : List (String × Json) → List (String × Setting)
  | [] => []
  | (name, x) :: rest => (name, ofJson x) :: ofMembers rest

end

/-! Conversions -/

def affirmations : List String := ["true", "on", "yes"]
def negations : List String := ["false", "off", "no"]

def word? : Setting → Option UInt64
  | .flag b => some (if b then 1 else 0)
  | .int n => if 0 ≤ n then some (UInt64.ofNat n.toNat) else none
  | .real x => some x.toWord
  | .text s =>
    if affirmations.contains (lowered s) then some 1
    else if negations.contains (lowered s) then some 0
    else Numeral.word? s.toList
  | _ => none

def flag? : Setting → Option Bool
  | .flag b => some b
  | .int n => some (n != 0)
  | .real x => some (!x.isZero)
  | .text s =>
    if ("1" :: affirmations).contains (lowered s) then some true
    else if ("0" :: negations).contains (lowered s) then some false
    else none
  | _ => none

def text? : Setting → Option String
  | .text s => some s
  | .flag b => some (if b then "true" else "false")
  | .int n => some (toString n)
  | .real x => some x.write
  | _ => none

def nullableText? : Setting → Option (Option String)
  | .null => some none
  | v => v.text?.map some

/-- The fields of a record, given by name or as a list in order. Unknown names and surplus items do not
matter. -/
def record? (names : List String) : Setting → Option (Table String Setting)
  | .table es => some es
  | .list items => some (names.zip items)
  | _ => none

def field {α : Type} (given : Table String Setting) (name : String) (convert : Setting → Option α)
    (silent : α) : Option α :=
  match Table.find? given name with
  | some v => convert v
  | none => some silent

end Setting
end CatalogSearch
