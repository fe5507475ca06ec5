import CatalogSearch.Json
import CatalogSearch.Number.Shortest
/-!
Writing JSON, on one line (`compact`) or with two blanks of indentation a level (`pretty`). Members keep
their order.
-/
namespace CatalogSearch.Json

def hexDigits (width n : Nat) : List Char :=
  let digits := Nat.toDigits 16 n
  List.replicate (width - digits.length) '0' ++ digits

/-- Quote, backslash and the controls below U+0020 are escaped; every other character stands as it is. -/
def escape (c : Char) : List Char :=
  match c with
  | '"' => ['\\', '"']
  | '\\' => ['\\', '\\']
  | '\x08' => ['\\', 'b']
  | '\x0c' => ['\\', 'f']
  | '\n' => ['\\', 'n']
  | '\r' => ['\\', 'r']
  | '\t' => ['\\', 't']
  | c => if c.toNat < 0x20 then ['\\', 'u'] ++ hexDigits 4 c.toNat else [c]

def quote (s : String) : String := String.ofList ('"' :: s.toList.flatMap escape ++ ['"'])

/-- Positional from five zeros after the point up to sixteen digits before it, and always with a point. -/
def floatStyle : Decimal.Style := ⟨some (-4, 16), ".0"⟩

def Number.write : Number → String
  | .int n => toString n
  | .float x => x.write floatStyle

def between (first last : String) (parts : List String) : String :=
  first ++ String.intercalate "," parts ++ last

mutual

def compact : Json → String
  | .null => "null"
  | .bool b => if b then "true" else "false"
  | .number n => n.write
  | .string s => quote s
  | .array items => between "[" "]" (compactItems items)
  | .object members => between "\x7b" "\x7d" (compactMembers members)

def compactItems : List Json → List String
  | [] => []
  | x :: xs => compact x :: compactItems xs

def compactMembers : List (String × Json) → List String
  | [] => []
  | (name, x) :: rest => (quote name ++ ":" ++ compact x) :: compactMembers rest

end

def indented (level : Nat) (first last : String) (parts : List String) : String :=
  if parts.isEmpty then first ++ last
  else
    let line (n : Nat) : String := "\n" ++ String.ofList (List.replicate (2 * n) ' ')
    first ++ String.intercalate "," (parts.map (line (level + 1) ++ ·)) ++ line level ++ last

mutual

def prettyAt (level : Nat) : Json → String
  | .null => "null"
  | .bool b => if b then "true" else "false"
  | .number n => n.write
  | .string s => quote s
  | .array items => indented level "[" "]" (prettyItems (level + 1) items)
  | .object members => indented level "\x7b" "\x7d" (prettyMembers (level + 1) members)

def prettyItems (level : Nat) : List Json → List String
  | [] => []
  | x :: xs => prettyAt level x :: prettyItems level xs

def prettyMembers (level : Nat) : List (String × Json) → List String
  | [] => []
  | (name, x) :: rest => (quote name ++ ": " ++ prettyAt level x) :: prettyMembers level rest

end

def pretty (v : Json) : String := prettyAt 0 v

end CatalogSearch.Json
