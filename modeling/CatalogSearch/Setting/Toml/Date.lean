import CatalogSearch.Number.Numeral
import CatalogSearch.Stamp
/-!
Dates and times in TOML. They are kept as texts, in one spelling: a `T` before the time, no zeros at the end
of a fraction, and `Z` or hours and minutes for the offset.
-/
namespace CatalogSearch.Toml

def number? (width least greatest : Nat) (s : List Char) : Option (Nat × List Char) :=
  if s.length < width then none
  else
    ((Numeral.natural? (s.take width)).filter fun n => least ≤ n && n ≤ greatest).map fun n =>
      (n, s.drop width)

def mark? (c : Char) : List Char → Option (List Char)
  | d :: rest => if d = c then some rest else none
  | [] => none

def lastDay (year month : Nat) : Nat :=
  if month = 2 then if year % 4 = 0 ∧ (year % 100 ≠ 0 ∨ year % 400 = 0) then 29 else 28
  else if [4, 6, 9, 11].contains month then 30
  else 31

def date? (s : List Char) : Option (String × List Char) := do
  let (year, rest) ← number? 4 0 9999 s
  let (month, rest) ← number? 2 1 12 (← mark? '-' rest)
  let (day, rest) ← number? 2 1 (lastDay year month) (← mark? '-' rest)
  let written := [Stamp.padded 4 year, Stamp.padded 2 month, Stamp.padded 2 day]
  pure (String.intercalate "-" written, rest)

def fraction (s : List Char) : String × List Char :=
  match s with
  | '.' :: rest =>
    let digits := rest.takeWhile Char.isDigit
    let counted := ((digits.take 9).reverse.dropWhile (· == '0')).reverse
    if digits.isEmpty then ("", s)
    else (if counted.isEmpty then "" else String.ofList ('.' :: counted), rest.dropWhile Char.isDigit)
  | s => ("", s)

/-- A minute may have a second more. -/
def time? (s : List Char) : Option (String × List Char) := do
  let (hour, rest) ← number? 2 0 23 s
  let (minute, rest) ← number? 2 0 59 (← mark? ':' rest)
  let (second, rest) ← number? 2 0 60 (← mark? ':' rest)
  let (part, rest) := fraction rest
  let written := [Stamp.padded 2 hour, Stamp.padded 2 minute, Stamp.padded 2 second]
  pure (String.intercalate ":" written ++ part, rest)

def offset? : List Char → Option (String × List Char)
  | 'Z' :: rest => some ("Z", rest)
  | 'z' :: rest => some ("Z", rest)
  | c :: rest =>
    if c ≠ '+' ∧ c ≠ '-' then none
    else do
      let (hour, rest) ← number? 2 0 23 rest
      let (minute, rest) ← number? 2 0 59 (← mark? ':' rest)
      let direction := if c = '+' ∨ hour + minute = 0 then "+" else "-"
      pure (direction ++ Stamp.padded 2 hour ++ ":" ++ Stamp.padded 2 minute, rest)
  | [] => none

def moment? (s : List Char) : Option (String × List Char) :=
  match date? s with
  | none => time? s
  | some (date, rest) =>
    let timed : Option (String × List Char) := do
      let (time, after) ← if ['T', 't', ' '].contains (rest.headD '\n') then time? (rest.drop 1) else none
      let (offset, after) := (offset? after).getD ("", after)
      pure (date ++ "T" ++ time ++ offset, after)
    timed.getD (date, rest)

end CatalogSearch.Toml
