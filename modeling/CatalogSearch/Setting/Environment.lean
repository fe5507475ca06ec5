import CatalogSearch.Setting
/-!
Environment variables as settings. The name says where a value goes; the text is read as a flag or a number
where it can be.
-/
namespace CatalogSearch

abbrev Environment := Table String String

namespace Environment

def stem : List Char := "instrumeta__".toList

def dotted : List Char → List Char
  | '_' :: '_' :: rest => '.' :: dotted rest
  | c :: rest => c :: dotted rest
  | [] => []

/-- The name of the setting that a variable gives. -/
def settingName? (name : String) : Option String :=
  let lowered := name.toList.map Char.toLower
  if stem.isPrefixOf lowered then some (String.ofList (dotted (lowered.drop stem.length))) else none

def settingValue (text : String) : Setting :=
  match Setting.lowered text with
  | "true" => .flag true
  | "false" => .flag false
  | _ =>
    match Numeral.int64? text.toList with
    | some n => .int n
    | none => ((Real64.read? text.toList).map Setting.real).getD (.text text)

def settings (env : Environment) : List (String × Setting) :=
  env.filterMap fun (name, text) => (settingName? name).map fun place => (place, settingValue text)

def add (env : Environment) (name value : String) : Environment :=
  if (Table.find? env name).isSome then env else Table.insert env name value

end Environment
end CatalogSearch
