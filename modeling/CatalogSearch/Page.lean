import CatalogSearch.FilterError
import CatalogSearch.Number.Numeral
import CatalogSearch.Number.Saturating
import CatalogSearch.Text.Blank
/-!
Pages of a listing, and the request parameters that choose one.
-/
namespace CatalogSearch

structure Page where
  number : UInt64
  size : UInt64
deriving DecidableEq, Repr

namespace Page

def offset (page : Page) : UInt64 := Saturating.mul (Saturating.sub page.number 1) page.size

theorem toNat_offset (page : Page) :
    page.offset.toNat = min ((page.number.toNat - 1) * page.size.toNat) (UInt64.size - 1) := by
  simp [offset, Saturating.toNat_mul, Saturating.toNat_sub]

/-- The value that a parameter denotes: an integer from 1 to `2 ^ 63 - 1`, with blanks around it. -/
def positive? (raw : String) : Option UInt64 :=
  match Numeral.int64? (Text.trim raw.toList) with
  | some n => if 1 ≤ n then some (UInt64.ofNat n.toNat) else none
  | none => none

def readPositive (name raw : String) : Except FilterError UInt64 :=
  match positive? raw with
  | some n => pure n
  | none => throw (.page name raw)

/-- The size is read before the number. Without a size it is the default, and at least one. -/
def ofParameters (size number : Option String) (defaultSize : UInt64) : Except FilterError Page := do
  let size ← match size with
    | some raw => readPositive "size" raw
    | none => pure (max defaultSize 1)
  let number ← match number with
    | some raw => readPositive "number" raw
    | none => pure 1
  pure ⟨number, size⟩

def isSizeKey (key : String) : Bool := key == "page[size]" || key == "size"

def isNumberKey (key : String) : Bool := key == "page[number]" || key == "number"

def lastValue (isKey : String → Bool) (items : List (String × String)) : Option String :=
  (items.reverse.find? fun item => isKey item.1).map Prod.snd

def ofItems (items : List (String × String)) (defaultSize : UInt64) : Except FilterError Page :=
  ofParameters (lastValue isSizeKey items) (lastValue isNumberKey items) defaultSize

end Page
end CatalogSearch
