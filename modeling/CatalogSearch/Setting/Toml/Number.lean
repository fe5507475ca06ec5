import CatalogSearch.Setting
import CatalogSearch.Setting.Toml.Text
import CatalogSearch.Text.Split
/-!
Numbers in TOML: decimal ones with a sign, a fraction and an exponent, and whole ones in base two, eight and
sixteen. Single underscores may stand between digits.
-/
namespace CatalogSearch.Toml

def digits? (isDigit : Char → Bool) : List Char → Option (List Char)
  | [] => none
  | [c] => if isDigit c then some [c] else none
  | c :: '_' :: rest => if isDigit c then (digits? isDigit rest).map (c :: ·) else none
  | c :: rest => if isDigit c then (digits? isDigit rest).map (c :: ·) else none

def decimals? : List Char → Option (List Char) := digits? Char.isDigit

def whole? (s : List Char) : Option (List Char) :=
  (decimals? s).filter fun ds => ds.head? != some '0' || ds.length == 1

def sign : List Char → List Char × List Char
  | '+' :: rest => ([], rest)
  | '-' :: rest => (['-'], rest)
  | s => ([], s)

def based? (base : Nat) (s : List Char) : Option Setting := do
  let ds ← digits? (fun c => (Numeral.hexValue? c).any (· < base)) s
  let n ← Numeral.ofBase? base ds
  if n ≤ Numeral.greatestInt64 then pure (.int n) else none

def integer? : List Char → Option Setting
  | '0' :: 'x' :: ds => based? 16 ds
  | '0' :: 'o' :: ds => based? 8 ds
  | '0' :: 'b' :: ds => based? 2 ds
  | s => do
    let (minus, rest) := sign s
    let ds ← whole? rest
    (Numeral.int64? (minus ++ ds)).map Setting.int

/-- A number with a fraction or an exponent; one above the greatest number is refused. -/
def float? (s : List Char) : Option Setting := do
  let (minus, rest) := sign s
  if rest = "inf".toList then pure (.real (.infinite (minus ≠ [])))
  else if rest = "nan".toList then pure (.real .nan)
  else
    let isMark (c : Char) : Bool := c == 'e' || c == 'E'
    let mantissa := rest.takeWhile fun c => !isMark c
    let exponent := rest.dropWhile fun c => !isMark c
    let power ← match exponent with
      | [] => pure []
      | _ :: power =>
        let (minus, ds) := sign power
        (decimals? ds).map fun ds => 'e' :: minus ++ ds
    let digits ← match Text.cut '.' mantissa with
      | some (whole, fraction) => do
        let whole ← whole? whole
        let fraction ← decimals? fraction
        pure (whole ++ '.' :: fraction)
      | none => if exponent.isEmpty then none else whole? mantissa
    match Real64.read? (minus ++ digits ++ power) with
    | some (.infinite false) => none
    | x => x.map Setting.real

end CatalogSearch.Toml
