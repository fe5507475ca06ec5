import CatalogSearch.Filter
import CatalogSearch.Json.Record
/-!
Match modes in JSON: the name, or an object whose only member has that name and says nothing more.
-/
namespace CatalogSearch.MatchMode

def ofName? (name : String) : Option MatchMode :=
  [MatchMode.bestFields, .phrase].find? fun mode => mode.name == name

theorem ofName?_name (mode : MatchMode) : ofName? mode.name = some mode := by
  cases mode <;> rfl

def toJson (mode : MatchMode) : Json := .string mode.name

def decode : Json.Decoder MatchMode
  | _, .string s => s.text?.bind ofName?
  | room, .object [(name, .null)] => if room = 0 then none else name.text?.bind ofName?
  | _, _ => none

end CatalogSearch.MatchMode
