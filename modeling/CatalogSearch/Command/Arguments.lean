import CatalogSearch.Text.Split
/-!
Command line arguments: words, options with a value and flags, in any order. `--` ends the options.
-/
namespace CatalogSearch

inductive OptionKind where
  | flag
  | single
  | many
deriving DecidableEq, Repr

structure OptionRule where
  name : String
  letter : Option Char
  kind : OptionKind
deriving DecidableEq, Repr

structure Arguments where
  words : List String
  given : List (String × String)
deriving DecidableEq, Repr

inductive Misuse where
  | help
  | unusable
deriving DecidableEq, Repr

namespace Arguments

def empty : Arguments := ⟨[], []⟩

def has (a : Arguments) (name : String) : Bool := (a.given.map Prod.fst).contains name

def values (a : Arguments) (name : String) : List String :=
  a.given.filterMap fun (n, value) => if n = name then some value else none

def value? (a : Arguments) (name : String) : Option String := (a.values name).head?

def addWord (a : Arguments) (word : String) : Arguments := { a with words := a.words ++ [word] }

def addGiven (a : Arguments) (rule : OptionRule) (value : String) : Except Misuse Arguments :=
  if rule.kind ≠ .many ∧ a.has rule.name then throw .unusable
  else pure { a with given := a.given ++ [(rule.name, value)] }

inductive Shape where
  | word
  | ending
  | long (name : String) (value : Option String)
  | short (letter : Char) (rest : List Char)
deriving DecidableEq, Repr

/-- A single dash is a word. -/
def shape (argument : String) : Shape :=
  match argument.toList with
  | ['-', '-'] => .ending
  | '-' :: '-' :: rest =>
    match Text.cut '=' rest with
    | some (name, value) => .long (String.ofList name) (some (String.ofList value))
    | none => .long (String.ofList rest) none
  | '-' :: letter :: rest => .short letter rest
  | _ => .word

def attached : List Char → Option String
  | [] => none
  | '=' :: value => some (String.ofList value)
  | value => some (String.ofList value)

/-- Takes an option whose value may be written with it; otherwise the next argument must be its value, and
no option is one. The flag tells that the next argument is taken too. -/
def takeOption (a : Arguments) (rule : OptionRule) (value : Option String) (rest : List String) :
    Except Misuse (Arguments × Bool) :=
  match rule.kind, value, rest with
  | .flag, none, _ => do pure (← a.addGiven rule "", false)
  | .flag, some _, _ => throw .unusable
  | _, some value, _ => do pure (← a.addGiven rule value, false)
  | _, none, next :: _ => do
    if shape next ≠ .word then throw .unusable
    pure (← a.addGiven rule next, true)
  | _, none, [] => throw .unusable

def takeFirst (rules : List OptionRule) (a : Arguments) (first : String) (rest : List String) :
    Except Misuse (Arguments × Bool) :=
  match shape first with
  | .word => pure (a.addWord first, false)
  | .ending => pure (a, false)
  | .long name value =>
    match rules.find? (·.name == name) with
    | some rule => takeOption a rule value rest
    | none => throw (if name = "help" ∧ value = none then .help else .unusable)
  | .short letter value =>
    match rules.find? (·.letter == some letter) with
    | some rule => takeOption a rule (attached value) rest
    | none => throw (if letter = 'h' then .help else .unusable)

def readFrom (rules : List OptionRule) (a : Arguments) : List String → Except Misuse Arguments
  | [] => pure a
  | [last] =>
    if shape last = .ending then pure a else do pure (← takeFirst rules a last []).1
  | first :: next :: rest =>
    if shape first = .ending then pure { a with words := a.words ++ next :: rest }
    else do
      let (a, both) ← takeFirst rules a first (next :: rest)
      if both then readFrom rules a rest else readFrom rules a (next :: rest)

def read (rules : List OptionRule) (arguments : List String) : Except Misuse Arguments :=
  readFrom rules empty arguments

end Arguments
end CatalogSearch
