import CatalogSearch.Directory
import CatalogSearch.Settings
import CatalogSearch.Stamp
/-!
The log file of a run: where it lies, and how its name tells the time that it is for.
-/
namespace CatalogSearch

inductive Rotation where
  | minutely
  | hourly
  | daily
  | never
deriving DecidableEq, Repr

namespace Rotation

/-- Blanks around the word and the case of its letters do not matter; an unknown word means daily. -/
def ofText (text : String) : Rotation :=
  match String.ofList ((Text.trim text.toList).map Char.toLower) with
  | "minutely" => .minutely
  | "hourly" => .hourly
  | "never" => .never
  | _ => .daily

def precision : Rotation → Nat
  | .minutely => 5
  | .hourly => 4
  | .daily => 3
  | .never => 0

end Rotation

namespace LogFile

/-- A file that is kept for good has an extension; one that is rotated has the time. -/
def name (rotation : Rotation) (stem : String) (t : Stamp) : String :=
  match rotation with
  | .never => stem ++ ".log"
  | _ =>
    let stamp := t.write rotation.precision
    if stem.isEmpty then stamp else stem ++ "." ++ stamp

/-- A log file is wanted in a directory that cannot be made. -/
structure Blocked where
  directory : String
deriving DecidableEq, Repr

def Blocked.message (b : Blocked) : String := "create log directory '" ++ b.directory ++ "'"

def open? (settings : LoggingSettings) (d : Directory) (t : Stamp) : Except Blocked (Option String) :=
  if !settings.fileEnabled then pure none
  else if d.isBlocked settings.fileDirectory then throw ⟨settings.fileDirectory⟩
  else
    let file := name (Rotation.ofText settings.fileRotation) settings.fileStem t
    pure (some (Directory.join settings.fileDirectory file))

end LogFile
end CatalogSearch
