/-!
Finite binary floating-point numbers of 53 bits, as exact integers. Every operation here takes the exact
result and rounds it once, to the nearest number, a tie going to the even significand.
-/
namespace CatalogSearch

/-- The number `± significand · 2 ^ exponent`. Rounding keeps `significand < 2 ^ 53`, `-1074 ≤ exponent`
and `exponent ≤ 971`, and `2 ^ 52 ≤ significand` wherever the exponent is above the least one, so each
magnitude has one form. -/
structure Binary64 where
  negative : Bool
  significand : Nat
  exponent : Int
deriving DecidableEq, Repr, Inhabited

namespace Binary64

def leastExponent : Int := -1074
def greatestExponent : Int := 971

def nearest (num den : Nat) : Nat :=
  let q := num / den
  let twice := 2 * (num % den)
  if twice < den then q
  else if den < twice then q + 1
  else q + q % 2

def scaled (num den : Nat) (exponent : Int) : Nat × Nat :=
  if exponent < 0 then (num <<< (-exponent).toNat, den) else (num, den <<< exponent.toNat)

/-- The exponent that leaves 53 bits before the point, or the least one. -/
def exponentFor (num den : Nat) : Int :=
  let guess : Int := (Nat.log2 num : Int) - Nat.log2 den - 52
  let (n, d) := scaled num den guess
  max leastExponent (if n < d <<< 52 then guess - 1 else guess)

/-- The magnitude nearest to `num / den`; none when that lies beyond the greatest number. -/
def roundMagnitude (num den : Nat) : Option (Nat × Int) :=
  if num = 0 then some (0, leastExponent)
  else
    let e := exponentFor num den
    let (n, d) := scaled num den e
    let m := nearest n d
    let (m, e) := if m = 1 <<< 53 then (1 <<< 52, e + 1) else (m, e)
    if e ≤ greatestExponent then some (m, e) else none

def round (negative : Bool) (num den : Nat) : Option Binary64 :=
  (roundMagnitude num den).map fun (m, e) => ⟨negative, m, e⟩

def zero (negative : Bool) : Binary64 := ⟨negative, 0, leastExponent⟩

def isZero (x : Binary64) : Bool := x.significand == 0

def neg (x : Binary64) : Binary64 := { x with negative := !x.negative }

def fraction (x : Binary64) : Nat × Nat :=
  if x.exponent < 0 then (x.significand, 1 <<< (-x.exponent).toNat)
  else (x.significand <<< x.exponent.toNat, 1)

def mul (x y : Binary64) : Option Binary64 :=
  let (a, b) := x.fraction
  let (c, d) := y.fraction
  round (x.negative != y.negative) (a * c) (b * d)

def div (x y : Binary64) : Option Binary64 :=
  let (a, b) := x.fraction
  let (c, d) := y.fraction
  round (x.negative != y.negative) (a * d) (b * c)

def ofNat (n : Nat) : Option Binary64 := round false n 1

def same (x y : Binary64) : Bool :=
  x.significand == y.significand && x.exponent == y.exponent
    && (x.negative == y.negative || x.significand == 0)

def roundAway (x : Binary64) : Nat :=
  let (a, b) := x.fraction
  (2 * a + b) / (2 * b)

end Binary64
end CatalogSearch
