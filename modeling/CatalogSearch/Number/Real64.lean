import CatalogSearch.Number.Numeral
import CatalogSearch.Number.Shortest
/-!
Binary floating-point numbers with the infinities and the value that is no number, as settings give them
in decimal. Reading rounds the exact decimal once.
-/
namespace CatalogSearch

inductive Real64 where
  | finite (x : Binary64)
  | infinite (negative : Bool)
  | nan
deriving DecidableEq, Repr

namespace Real64

/-- The number nearest to `significand · 10 ^ exponent`. The greatest numbers have 309 digits before the
point and the least ones 323 zeros after it, so far outside of that no power is computed. -/
def ofDecimal (negative : Bool) (significand : Nat) (exponent : Int) : Real64 :=
  let point := (Decimal.digitsOf significand).length + exponent
  if significand = 0 ∨ point < -400 then .finite (Binary64.zero negative)
  else if 400 < point then .infinite negative
  else
    let (num, den) :=
      if 0 ≤ exponent then (significand * Nat.pow 10 exponent.toNat, 1)
      else (significand, Nat.pow 10 (-exponent).toNat)
    match Binary64.round negative num den with
    | some x => .finite x
    | none => .infinite negative

def magnitude? (s : List Char) : Option (Nat × Int) := do
  let whole := s.takeWhile Char.isDigit
  let rest := s.dropWhile Char.isDigit
  let (fraction, rest) := match rest with
    | '.' :: rest => (rest.takeWhile Char.isDigit, rest.dropWhile Char.isDigit)
    | _ => ([], rest)
  if whole.isEmpty && fraction.isEmpty then none
  let exponent ← match rest with
    | [] => some 0
    | c :: rest => if c == 'e' || c == 'E' then Numeral.integer? rest else none
  pure (Numeral.value (whole ++ fraction), exponent - fraction.length)

def unsigned? (negative : Bool) (s : List Char) : Option Real64 :=
  let word := String.ofList (s.map Char.toLower)
  if word = "inf" ∨ word = "infinity" then some (.infinite negative)
  else if word = "nan" then some .nan
  else (magnitude? s).map fun (significand, exponent) => ofDecimal negative significand exponent

def read? : List Char → Option Real64
  | '+' :: s => unsigned? false s
  | '-' :: s => unsigned? true s
  | s => unsigned? false s

def isZero : Real64 → Bool
  | .finite x => x.isZero
  | _ => false

/-- The nearest word, an exact half going up; what lies beyond the words goes to the nearer end. -/
def toWord : Real64 → UInt64
  | .finite x => if x.negative then 0 else UInt64.ofNat (min x.roundAway (UInt64.size - 1))
  | .infinite negative => if negative then 0 else UInt64.ofNat (UInt64.size - 1)
  | .nan => 0

def style : Decimal.Style := ⟨none, ""⟩

def write : Real64 → String
  | .finite x => x.write style
  | .infinite negative => if negative then "-inf" else "inf"
  | .nan => "NaN"

end Real64
end CatalogSearch
