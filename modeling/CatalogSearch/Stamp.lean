/-!
Times of the calendar, as file names tell them.
-/
namespace CatalogSearch

structure Stamp where
  year : Nat
  month : Nat
  day : Nat
  hour : Nat
  minute : Nat
deriving DecidableEq, Repr

namespace Stamp

def padded (width n : Nat) : String :=
  let digits := toString n
  String.ofList (List.replicate (width - digits.length) '0') ++ digits

def parts (t : Stamp) : List String :=
  [padded 4 t.year, padded 2 t.month, padded 2 t.day, padded 2 t.hour, padded 2 t.minute]

def write (precision : Nat) (t : Stamp) : String := String.intercalate "-" (t.parts.take precision)

/-- The day of the Gregorian calendar that comes so many days after 1 January 1970. Years are counted from
March, so that the leap day is the last one of its year. -/
def ofDays (days : Nat) : Nat × Nat × Nat :=
  let shifted := days + 719468
  let era := shifted / 146097
  let day := shifted % 146097
  let year := (day - day / 1460 + day / 36524 - day / 146096) / 365
  let dayOfYear := day - (365 * year + year / 4 - year / 100)
  let month := (5 * dayOfYear + 2) / 153
  let dayOfMonth := dayOfYear - (153 * month + 2) / 5 + 1
  if month < 10 then (400 * era + year, month + 3, dayOfMonth)
  else (400 * era + year + 1, month - 9, dayOfMonth)

def ofSeconds (seconds : Nat) : Stamp :=
  let (year, month, day) := ofDays (seconds / 86400)
  { year, month, day, hour := seconds % 86400 / 3600, minute := seconds % 3600 / 60 }

end Stamp

end CatalogSearch
