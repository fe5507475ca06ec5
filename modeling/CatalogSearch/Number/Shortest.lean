import CatalogSearch.Number.Binary64
/-!
The shortest decimal that rounds to a given number: the fewest digits, and of those the nearest.
On each decimal grid only the two neighbours of the number are tried; if any point of a grid rounds to
the number, so does one of these.
-/
namespace CatalogSearch

/-- The value `0.d₁d₂…dₙ · 10 ^ point`; its first and last digits are not zero. -/
structure Decimal where
  digits : List Char
  point : Int
deriving DecidableEq, Repr

namespace Decimal

def digitsOf (n : Nat) : List Char := Nat.toDigits 10 n

def scaled (num den : Nat) (place : Int) : Nat × Nat :=
  if place < 0 then (num * Nat.pow 10 (-place).toNat, den) else (num, den * Nat.pow 10 place.toNat)

def order (num den : Nat) : Int :=
  let guess := ((Nat.log2 num : Int) - Nat.log2 den) * 30103 / 100000
  let atLeast (e : Int) : Bool := let (n, d) := scaled num den e; d ≤ n
  if atLeast (guess + 1) then guess + 1
  else if atLeast guess then guess
  else guess - 1

/-- The numbers that round to `x`, as bounds in quarters of its last place: half a place to each side,
but only a quarter below a power of two. -/
def quarters (x : Binary64) : Nat × Nat × Nat :=
  let m := 4 * x.significand
  let below := if x.significand = 1 <<< 52 ∧ Binary64.leastExponent < x.exponent then 1 else 2
  (m - below, m, m + 2)

/-- A neighbour of the number on the grid of `count` digits that still rounds to it, with the place of
its last digit. -/
def onGrid (x : Binary64) (count : Nat) : Option (Nat × Int) :=
  let (low, mid, high) := quarters x
  let quarter : Nat × Nat := if x.exponent < 0 then (1, 1 <<< (-x.exponent).toNat) else (1 <<< x.exponent.toNat, 1)
  let (num, den) := (mid * quarter.1, 4 * quarter.2)
  let place := order num den - (count : Int) + 1
  let (unit, step) := scaled quarter.1 (4 * quarter.2) place
  let inside (k : Nat) : Bool :=
    if x.significand % 2 = 0 then low * unit ≤ k * step && k * step ≤ high * unit
    else low * unit < k * step && k * step < high * unit
  let k := mid * unit / step
  let rest := mid * unit - k * step
  match inside k, inside (k + 1) with
  | true, true =>
    if 2 * rest < step || (2 * rest == step && k % 2 == 0) then some (k, place) else some (k + 1, place)
  | true, false => some (k, place)
  | false, true => some (k + 1, place)
  | false, false => none

def shortest (x : Binary64) : Decimal :=
  match (List.range 17).findSome? fun i => onGrid x (i + 1) with
  | none => ⟨[], 0⟩
  | some (k, place) =>
    let digits := digitsOf k
    let kept := (digits.reverse.dropWhile (· == '0')).reverse
    ⟨kept, place + digits.length⟩

/-- How a decimal is written. -/
structure Style where
  /-- The least and the greatest `point` written positionally; beyond them an exponent is written. -/
  positional : Option (Int × Int)
  wholeMark : String

def zeros (n : Int) : List Char := List.replicate n.toNat '0'

def writePositional (style : Style) (d : Decimal) : List Char :=
  if d.point ≤ 0 then ['0', '.'] ++ zeros (-d.point) ++ d.digits
  else if d.digits.length ≤ d.point then
    d.digits ++ zeros (d.point - d.digits.length) ++ style.wholeMark.toList
  else d.digits.take d.point.toNat ++ '.' :: d.digits.drop d.point.toNat

def writeScientific (d : Decimal) : List Char :=
  let e := d.point - 1
  let mantissa := match d.digits with
    | first :: second :: rest => first :: '.' :: second :: rest
    | digits => digits
  mantissa ++ 'e' :: (if e < 0 then '-' else '+') :: digitsOf e.natAbs

def write (style : Style) (d : Decimal) : List Char :=
  match style.positional with
  | none => d.writePositional style
  | some (least, greatest) =>
    if least ≤ d.point ∧ d.point ≤ greatest then d.writePositional style else d.writeScientific

end Decimal

def Binary64.write (style : Decimal.Style) (x : Binary64) : String :=
  let sign := if x.negative then ['-'] else []
  let magnitude :=
    if x.isZero then '0' :: style.wholeMark.toList else (Decimal.shortest x).write style
  String.ofList (sign ++ magnitude)

end CatalogSearch
