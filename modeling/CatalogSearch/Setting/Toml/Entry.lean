import CatalogSearch.Setting
/-!
The tables of a TOML document as they are built. How a table came to be says who may still write into it:
each entry is defined once, a header opens a table once, and what stands in braces is closed.
-/
namespace CatalogSearch.Toml

inductive Origin where
  | opened
  | implied
  | dotted
deriving DecidableEq, Repr

/-- The tables of a list of tables, the last of which comes first. -/
inductive Entry where
  | value (v : Setting)
  | table (origin : Origin) (entries : List (String × Entry))
  | tables (items : List Entry)

abbrev Entries := Table String Entry

/-- Defines an entry in a table. Keys with points do not reach into tables that headers made, unless there
is a table of their own in between. -/
def Entries.define? (value : Setting) : List String → Entries → Option Entries
  | [], _ => none
  | [key], es => if (Table.find? es key).isSome then none else some (Table.insert es key (.value value))
  | key :: next :: keys, es =>
    match Table.find? es key with
    | none =>
      (define? value (next :: keys) []).map fun sub => Table.insert es key (.table .dotted sub)
    | some (.table origin sub) =>
      if origin = .opened ∨ (origin = .implied ∧ keys = []) then none
      else (define? value (next :: keys) sub).map fun sub => Table.insert es key (.table origin sub)
    | some (.tables (.table origin last :: before)) =>
      if keys = [] then none
      else (define? value (next :: keys) last).map fun last =>
        Table.insert es key (.tables (.table origin last :: before))
    | some _ => none

/-- Changes the table that the keys of a header lead to; a list of tables stands for its last one. -/
def Entries.change? (change : Entries → Option Entries) : List String → Entries → Option Entries
  | [], es => change es
  | key :: keys, es =>
    match Table.find? es key with
    | none => (change? change keys []).map fun sub => Table.insert es key (.table .implied sub)
    | some (.table origin sub) =>
      (change? change keys sub).map fun sub => Table.insert es key (.table origin sub)
    | some (.tables (.table origin last :: before)) =>
      (change? change keys last).map fun last =>
        Table.insert es key (.tables (.table origin last :: before))
    | some _ => none

def Entries.open? (key : String) (es : Entries) : Option Entries :=
  match Table.find? es key with
  | none => some (Table.insert es key (.table .opened []))
  | some (.table .implied sub) => some (Table.insert es key (.table .opened sub))
  | some _ => none

def Entries.addItem? (key : String) (es : Entries) : Option Entries :=
  match Table.find? es key with
  | none => some (Table.insert es key (.tables [.table .opened []]))
  | some (.tables items) => some (Table.insert es key (.tables (.table .opened [] :: items)))
  | some _ => none

mutual

def Entry.setting : Entry → Setting
  | .value v => v
  | .table _ es => .table (entrySettings es)
  | .tables items => .list (itemSettings items).reverse

def entrySettings : List (String × Entry) → List (String × Setting)
  | [] => []
  | (key, entry) :: rest => (key, entry.setting) :: entrySettings rest

def itemSettings : List Entry → List Setting
  | [] => []
  | entry :: rest => entry.setting :: itemSettings rest

end

end CatalogSearch.Toml
