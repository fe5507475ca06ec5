/-!
Whole numbers written in decimal: ASCII digits only, with a sign where the form allows one. The digits of
other bases go up to sixteen.
-/
namespace CatalogSearch.Numeral

def digitValue (c : Char) : Nat := c.toNat - '0'.toNat

def value (digits : List Char) : Nat := Nat.ofDigitChars 10 digits 0

def natural? (s : List Char) : Option Nat :=
  if s ≠ [] ∧ s.all Char.isDigit then some (value s) else none

def integer? : List Char → Option Int
  | '+' :: s => (natural? s).map Int.ofNat
  | '-' :: s => (natural? s).map fun n => -(n : Int)
  | s => (natural? s).map Int.ofNat

def hexValue? (c : Char) : Option Nat :=
  if '0' ≤ c ∧ c ≤ '9' then some (c.toNat - '0'.toNat)
  else if 'a' ≤ c ∧ c ≤ 'f' then some (c.toNat - 'a'.toNat + 10)
  else if 'A' ≤ c ∧ c ≤ 'F' then some (c.toNat - 'A'.toNat + 10)
  else none

def ofBase? (base : Nat) (digits : List Char) : Option Nat :=
  (digits.mapM hexValue?).map fun values => values.foldl (fun n d => base * n + d) 0

def leastInt64 : Int := Int64.minValue.toInt
def greatestInt64 : Int := Int64.maxValue.toInt

def int64? (s : List Char) : Option Int :=
  (integer? s).filter fun n => leastInt64 ≤ n ∧ n ≤ greatestInt64

/-- A natural number below `2 ^ 64`, with an optional plus. -/
def word? (s : List Char) : Option UInt64 :=
  let digits := match s with
    | '+' :: rest => rest
    | _ => s
  (natural? digits).bind fun n => if n < UInt64.size then some (UInt64.ofNat n) else none

theorem int64?_bounds {s : List Char} {n : Int} (h : int64? s = some n) :
    leastInt64 ≤ n ∧ n ≤ greatestInt64 := by
  obtain ⟨_, hp⟩ := Option.filter_eq_some_iff.1 h
  simpa using hp

end CatalogSearch.Numeral
