import CatalogSearch.Json
import CatalogSearch.Number.Numeral
/-!
A JSON document as it is written: repeated members, the spelling of numbers and the escapes of texts are
kept. `Document.json?` gives a document its value. Some readers look at a document before it has one,
because a repeated member or a part that nobody asks for then matters.
-/
namespace CatalogSearch.Json

inductive TextUnit where
  | char (c : Char)
  | code (n : Nat)
deriving DecidableEq, Repr

abbrev Spelling := List TextUnit

namespace Spelling

def isHighSurrogate (n : Nat) : Bool := 0xD800 ≤ n && n < 0xDC00

def isLowSurrogate (n : Nat) : Bool := 0xDC00 ≤ n && n < 0xE000

/-- The characters meant. Two surrogates in order are one character; any other surrogate is none. -/
def chars? : Spelling → Option (List Char)
  | [] => some []
  | .char c :: rest => (chars? rest).map (c :: ·)
  | .code high :: .code low :: rest =>
    if isHighSurrogate high then
      if isLowSurrogate low then
        (chars? rest).map (Char.ofNat (0x10000 + (high - 0xD800) * 0x400 + (low - 0xDC00)) :: ·)
      else none
    else if isLowSurrogate high then none
    else (chars? (.code low :: rest)).map (Char.ofNat high :: ·)
  | .code n :: rest =>
    if isHighSurrogate n || isLowSurrogate n then none else (chars? rest).map (Char.ofNat n :: ·)

def text? (s : Spelling) : Option String := (chars? s).map String.ofList

end Spelling

structure Literal where
  negative : Bool
  whole : List Char
  fraction : List Char
  exponentNegative : Bool
  exponent : List Char
deriving DecidableEq, Repr

namespace Literal

/-- Digits are taken into the significand while it stays below `2 ^ 64`; the digits left over are returned. -/
def absorb (significand : Nat) : List Char → Nat × List Char
  | [] => (significand, [])
  | c :: rest =>
    let next := 10 * significand + Numeral.digitValue c
    if next < UInt64.size then absorb next rest else (significand, c :: rest)

def powerOfTen (e : Nat) : Binary64 := (Binary64.ofNat (Nat.pow 10 e)).getD (Binary64.zero false)

/-- `x · 10 ^ exponent` by one rounded step with a power of ten up to `10 ^ 308`, after as many divisions
by `10 ^ 308` as the exponent needs; none when the result is beyond the greatest number. -/
def scale (x : Binary64) (exponent : Int) : Option Binary64 :=
  if exponent.natAbs ≤ 308 then
    if 0 ≤ exponent then x.mul (powerOfTen exponent.natAbs) else x.div (powerOfTen exponent.natAbs)
  else if x.isZero then some x
  else if 0 ≤ exponent then none
  else (x.div (powerOfTen 308)).bind fun y => scale y (exponent + 308)
termination_by (-exponent).toNat
decreasing_by omega

def greatestExponent : Int := Int32.maxValue.toInt

/-- A significand and a power of ten as a binary number. The significand is rounded before it is scaled, so
the result may differ from the nearest number in its last place. -/
def float? (negative : Bool) (significand : Nat) (exponent : Int) : Option Binary64 :=
  (Binary64.ofNat significand).bind fun x =>
    (scale x exponent).map fun y => if negative then y.neg else y

/-- A whole number of 64 bits is an integer. Any other number, and the negative zero, is binary. -/
def number? (l : Literal) : Option Number :=
  let (significand, dropped) := absorb 0 l.whole
  let isWhole : Bool := l.fraction.isEmpty && l.exponent.isEmpty && dropped.isEmpty
  if isWhole ∧ ¬ l.negative then some (.int significand)
  else if isWhole ∧ 0 < significand ∧ significand ≤ 1 <<< 63 then some (.int (-significand))
  else
    let (significand, cut) := absorb significand l.fraction
    let place : Int := dropped.length - (l.fraction.length - cut.length : Nat)
    let written := Numeral.value l.exponent
    if greatestExponent < written then
      if significand ≠ 0 ∧ ¬ l.exponentNegative then none
      else some (.float (Binary64.zero l.negative))
    else
      let exponent := if l.exponentNegative then place - written else place + written
      (float? l.negative significand exponent).map .float

end Literal

inductive Document where
  | null
  | bool (b : Bool)
  | number (l : Literal)
  | string (s : Spelling)
  | array (items : List Document)
  | object (members : List (Spelling × Document))
deriving Repr, Inhabited

namespace Document

def depthLimit : Nat := 127

mutual

def json? (room : Nat) : Document → Option Json
  | .null => some .null
  | .bool b => some (.bool b)
  | .number l => l.number?.map .number
  | .string s => s.text?.map .string
  | .array items => if room = 0 then none else (items? (room - 1) items).map .array
  | .object members =>
    if room = 0 then none
    else (members? (room - 1) members).map fun ms => .object (Table.ofList ms)

def items? (room : Nat) : List Document → Option (List Json)
  | [] => some []
  | d :: rest => do
    let x ← json? room d
    let xs ← items? room rest
    pure (x :: xs)

def members? (room : Nat) : List (Spelling × Document) → Option (List (String × Json))
  | [] => some []
  | (name, d) :: rest => do
    let name ← name.text?
    let x ← json? room d
    let xs ← members? room rest
    pure ((name, x) :: xs)

end

end Document
end CatalogSearch.Json
