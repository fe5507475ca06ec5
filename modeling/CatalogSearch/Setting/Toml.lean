import CatalogSearch.Setting.Toml.Date
import CatalogSearch.Setting.Toml.Entry
import CatalogSearch.Setting.Toml.Number
/-!
Settings files in the TOML format: headers and keys with their values, line by line.
-/
namespace CatalogSearch.Toml

def skipSpace (s : List Char) : List Char := s.dropWhile Text.isSpace

def skipComment : List Char → List Char
  | '#' :: rest => rest.dropWhile (!isControl ·)
  | s => s

def skipLines : Nat → List Char → List Char
  | 0, s => s
  | fuel + 1, s =>
    match skipComment (skipSpace s) with
    | '\n' :: rest => skipLines fuel rest
    | s => s

def lineEnd? (s : List Char) : Option (List Char) :=
  match skipComment (skipSpace s) with
  | [] => some []
  | '\n' :: rest => some rest
  | _ => none

def isBare (c : Char) : Bool := c.isAlphanum || c == '_' || c == '-'

def simpleKey? (s : List Char) : Option (String × List Char) :=
  match s with
  | '"' :: _ => line? s
  | '\'' :: _ => line? s
  | s =>
    let key := s.takeWhile isBare
    if key.isEmpty then none else some (String.ofList key, s.dropWhile isBare)

def keys? : Nat → List Char → Option (List String × List Char)
  | 0, _ => none
  | fuel + 1, s => do
    let (key, rest) ← simpleKey? (skipSpace s)
    match skipSpace rest with
    | '.' :: rest => (keys? fuel rest).map fun (keys, after) => (key :: keys, after)
    | rest => pure ([key], rest)

def scalarValue? (s : List Char) : Option Setting :=
  if s = "true".toList then some (.flag true)
  else if s = "false".toList then some (.flag false)
  else (integer? s).or (float? s)

def endsScalar (c : Char) : Bool := Text.isSpace c || [',', ']', '\x7d', '#', '\n'].contains c

mutual

def value? : Nat → List Char → Option (Setting × List Char)
  | 0, _ => none
  | fuel + 1, s =>
    match s with
    | '"' :: _ => (text? s).map fun (text, after) => (.text text, after)
    | '\'' :: _ => (text? s).map fun (text, after) => (.text text, after)
    | '[' :: rest => (list? fuel rest).map fun (items, after) => (.list items, after)
    | '\x7b' :: rest =>
      match skipSpace rest with
      | '\x7d' :: rest => some (.empty, rest)
      | rest => (inlineTable? fuel [] rest).map fun (es, after) => (.table (entrySettings es), after)
    | s =>
      match moment? s with
      | some (text, after) => some (.text text, after)
      | none => (scalarValue? (s.takeWhile (!endsScalar ·))).map fun v => (v, s.dropWhile (!endsScalar ·))

def list? : Nat → List Char → Option (List Setting × List Char)
  | 0, _ => none
  | fuel + 1, s =>
    match skipLines s.length s with
    | ']' :: rest => some ([], rest)
    | s => do
      let (v, rest) ← value? fuel s
      match skipLines rest.length rest with
      | ',' :: rest => (list? fuel rest).map fun (items, after) => (v :: items, after)
      | ']' :: rest => pure ([v], rest)
      | _ => none

def inlineTable? : Nat → Entries → List Char → Option (Entries × List Char)
  | 0, _, _ => none
  | fuel + 1, es, s => do
    let (keys, rest) ← keys? fuel s
    let (v, rest) ← value? fuel (skipSpace (← mark? '=' rest))
    let es ← es.define? v keys
    match skipSpace rest with
    | ',' :: rest => inlineTable? fuel es rest
    | '\x7d' :: rest => pure (es, rest)
    | _ => none

end

/-- What has been read: all entries, and the keys of the table that entries go into. -/
structure State where
  root : Entries
  table : List String

def State.enter? (st : State) (enter : String → Entries → Option Entries) (keys : List String) :
    Option State := do
  let key ← keys.getLast?
  let root ← st.root.change? (enter key) keys.dropLast
  pure { root, table := keys }

def statement? (st : State) (s : List Char) : Option (State × List Char) :=
  match s with
  | '[' :: '[' :: rest => do
    let (keys, rest) ← keys? s.length rest
    let rest ← lineEnd? (← mark? ']' (← mark? ']' rest))
    pure (← st.enter? Entries.addItem? keys, rest)
  | '[' :: rest => do
    let (keys, rest) ← keys? s.length rest
    let rest ← lineEnd? (← mark? ']' rest)
    pure (← st.enter? Entries.open? keys, rest)
  | s => do
    let (keys, rest) ← keys? s.length s
    let (v, rest) ← value? s.length (skipSpace (← mark? '=' rest))
    let root ← st.root.change? (Entries.define? v keys) st.table
    let rest ← lineEnd? rest
    pure ({ st with root }, rest)

def statements? : Nat → State → List Char → Option Entries
  | 0, _, _ => none
  | fuel + 1, st, s =>
    match skipLines s.length s with
    | [] => some st.root
    | s => (statement? st s).bind fun (st, rest) => statements? fuel st rest

def lineFeeds : List Char → List Char
  | '\r' :: '\n' :: rest => '\n' :: lineFeeds rest
  | c :: rest => c :: lineFeeds rest
  | [] => []

def read? (text : String) : Option Setting :=
  let s := match lineFeeds text.toList with
    | '\ufeff' :: rest => rest
    | s => s
  (statements? (s.length + 1) ⟨[], []⟩ s).map fun es => .table (entrySettings es)

end CatalogSearch.Toml
