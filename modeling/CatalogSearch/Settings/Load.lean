import CatalogSearch.Directory
import CatalogSearch.Setting.EnvFile
import CatalogSearch.Setting.Path
import CatalogSearch.Setting.Toml
import CatalogSearch.Settings
/-!
Loading the settings: the defaults, over them the settings file, over that the variables of the environment
and of the file `.env`. What the layers say in the end must have the right types and be valid.
-/
namespace CatalogSearch

def SearchSettings.ofSetting? (v : Setting) : Option SearchSettings := do
  let given ← v.record? fields
  let url ← Setting.field given "url" Setting.nullableText? none
  let indexStem ← Setting.field given "index_prefix" Setting.text? ""
  let defaultPageSize ← Setting.field given "default_page_size" Setting.word? usualPageSize
  let maxPageSize ← Setting.field given "max_page_size" Setting.word? usualMaxPageSize
  let timeoutSeconds ← Setting.field given "request_timeout_seconds" Setting.word? usualTimeoutSeconds
  pure { url, indexStem, defaultPageSize, maxPageSize, timeoutSeconds }

def LoggingSettings.ofSetting? (v : Setting) : Option LoggingSettings := do
  let given ← v.record? fields
  let level ← Setting.field given "level" Setting.text? usualLevel
  let json ← Setting.field given "json" Setting.flag? false
  let fileEnabled ← Setting.field given "file_enabled" Setting.flag? false
  let fileDirectory ← Setting.field given "file_directory" Setting.text? usualFileDirectory
  let fileStem ← Setting.field given "file_prefix" Setting.text? usualFileStem
  let fileRotation ← Setting.field given "file_rotation" Setting.text? usualFileRotation
  pure { level, json, fileEnabled, fileDirectory, fileStem, fileRotation }

namespace Settings

def ofSetting? (v : Setting) : Option Settings := do
  let given ← v.record? ["search", "logging"]
  let search ← Setting.field given "search" SearchSettings.ofSetting? {}
  let logging ← Setting.field given "logging" LoggingSettings.ofSetting? {}
  pure { search, logging }

inductive Format where
  | json
  | toml
deriving DecidableEq, Repr

def Format.extension : Format → String
  | .json => "json"
  | .toml => "toml"

def formats : List Format := [.json, .toml]

/-- The entries that a settings file writes. A document that is no table is in error. -/
def Format.entries? (format : Format) (text : String) : Option (List (String × Setting)) :=
  let root := match format with
    | .json => (Json.read? text).map Setting.ofJson
    | .toml => Toml.read? text
  match root with
  | some (.table es) => some es
  | _ => none

def fileVariable : String := "INSTRUMETA_CONFIG"
def defaultFile : String := "config"
def environmentFile : String := ".env"

def variableName (part key : String) : String :=
  String.ofList ((Environment.stem ++ part.toList ++ "__".toList ++ key.toList).map Char.toUpper)

def variableNames : List String :=
  fileVariable :: SearchSettings.fields.map (variableName "search")
    ++ LoggingSettings.fields.map (variableName "logging")

def fileName (env : Environment) : String := (Table.find? env fileVariable).getD defaultFile

def Format.fileName? (name : String) (f : Format) : Option String := Directory.extend? name f.extension

def fileNames (name : String) : List String := name :: formats.filterMap (Format.fileName? name)

/-- The settings file of a name: a file of just that name, whose extension then says the format, or one
with an extension added. A file of an unknown extension counts as none. -/
def file? (d : Directory) (name : String) : Option (Format × String) :=
  match d.read? name with
  | some text =>
    (formats.find? fun f => Directory.extension? name == some f.extension).map fun f => (f, text)
  | none => formats.findSome? fun f => ((f.fileName? name).bind d.read?).map fun text => (f, text)

def environment (d : Directory) (env : Environment) : Environment :=
  match d.read? environmentFile with
  | some text => EnvFile.load env text
  | none => env

def layers? (d : Directory) (env : Environment) : Option Setting := do
  let written ← match file? d (fileName env) with
    | some (format, text) => format.entries? text
    | none => pure []
  pure ((Setting.empty.layer written).layer env.settings)

def load (d : Directory) (env : Environment) : Except ServiceError Settings :=
  match (layers? d (environment d env)).bind ofSetting? with
  | none => throw .settings
  | some settings => do
    settings.validate
    pure settings

end Settings
end CatalogSearch
