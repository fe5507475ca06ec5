import CatalogSearch.Json.Document
/-!
Records with named fields in a fixed order, written as an object or as the array of their values. In an
object unknown members are passed over without a look at them and a field given twice is an error; in an
array trailing fields may be left out and a surplus value is an error.
-/
namespace CatalogSearch.Json

/-- Reads a document that may open at most that many containers in each other. -/
abbrev Decoder (α : Type) := Nat → Document → Option α

namespace Decoder

def value : Decoder Json := fun room d => d.json? room

def text : Decoder String
  | _, .string s => s.text?
  | _, _ => none

def flag : Decoder Bool
  | _, .bool b => some b
  | _, _ => none

def word : Decoder UInt64
  | _, .number l =>
    match l.number? with
    | some (.int n) => if 0 ≤ n ∧ n < UInt64.size then some (UInt64.ofNat n.toNat) else none
    | _ => none
  | _, _ => none

def nullable {α : Type} (decode : Decoder α) : Decoder (Option α)
  | _, .null => some none
  | room, d => (decode room d).map some

def list {α : Type} (decode : Decoder α) : Decoder (List α)
  | room, .array items => if room = 0 then none else items.mapM (decode (room - 1))
  | _, _ => none

end Decoder

structure Record where
  room : Nat
  given : Table String Document

namespace Record

/-- The known members in order, every name read; none if a name cannot be read or a known one repeats. -/
def known? (names : List String) : List (Spelling × Document) → Option (Table String Document)
  | [] => some []
  | (name, d) :: rest => do
    let name ← name.text?
    let given ← known? names rest
    if names.contains name then
      if (given.map Prod.fst).contains name then none else pure ((name, d) :: given)
    else pure given

def open? (names : List String) : Decoder Record
  | room, .object members =>
    if room = 0 then none else (known? names members).map fun given => ⟨room - 1, given⟩
  | room, .array items =>
    if room = 0 ∨ names.length < items.length then none else some ⟨room - 1, names.zip items⟩
  | _, _ => none

def required {α : Type} (r : Record) (name : String) (decode : Decoder α) : Option α :=
  (Table.find? r.given name).bind (decode r.room)

def optional {α : Type} (r : Record) (name : String) (decode : Decoder α) (silent : α) : Option α :=
  match Table.find? r.given name with
  | none => some silent
  | some d => decode r.room d

end Record
end CatalogSearch.Json
