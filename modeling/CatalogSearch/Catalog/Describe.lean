import CatalogSearch.Catalog
import CatalogSearch.Text.Quoted
/-!
The set-up of a catalogue on one line for diagnostics: its records with their fields, collaborators only as
present or absent.
-/
namespace CatalogSearch

namespace Describe

def commas (parts : List String) : String := String.intercalate ", " parts

def fields (name : String) (parts : List (String × String)) : String :=
  name ++ " \x7b " ++ commas (parts.map fun part => part.1 ++ ": " ++ part.2) ++ " \x7d"

def list (parts : List String) : String := "[" ++ commas parts ++ "]"

def table (parts : List (String × String)) : String :=
  "\x7b" ++ commas (parts.map fun part => part.1 ++ ": " ++ part.2) ++ "\x7d"

def optional (text : Option String) : String :=
  match text with
  | some text => "Some(" ++ Text.quoted text ++ ")"
  | none => "None"

def flag (b : Bool) : String := if b then "true" else "false"

end Describe

def EntityKind.describe : EntityKind → String
  | .device => "Device"
  | .platform => "Platform"
  | .configuration => "Configuration"
  | .contact => "Contact"
  | .site => "Site"

def Entity.describe (e : Entity) : String :=
  Describe.fields "EntityDescriptor" [
    ("kind", e.kind.describe),
    ("index", Describe.optional e.index),
    ("text_fields", Describe.list (e.textFields.map Text.quoted)),
    ("sort_aliases", Describe.table (e.sortAliases.map fun a => (Text.quoted a.1, Text.quoted a.2)))]

def EntityRegistry.describe (r : EntityRegistry) : String :=
  Describe.fields "EntityRegistry"
    [("entities", Describe.table (r.entities.map fun e => (Text.quoted e.1, e.2.describe)))]

/-- The rules themselves do not show, only the kinds that have one. -/
def VisibilityRegistry.describe (r : VisibilityRegistry) : String :=
  Describe.fields "VisibilityRegistry"
    [("entities", Describe.list (r.rules.map fun rule => rule.1.describe))]

def SearchSettings.describe (s : SearchSettings) : String :=
  Describe.fields "SearchConfig" [
    ("url", Describe.optional s.url),
    ("index_prefix", Text.quoted s.indexStem),
    ("default_page_size", toString s.defaultPageSize),
    ("max_page_size", toString s.maxPageSize),
    ("request_timeout_seconds", toString s.timeoutSeconds)]

def Catalog.describe (c : Catalog) : String :=
  Describe.fields "CollectionAdapter" [
    ("config", c.settings.describe),
    ("entities", c.entities.describe),
    ("visibility", c.visibility.describe),
    ("search_enabled", Describe.flag c.searchEnabled),
    ("eager_loading", Describe.flag c.loader.isSome)]

end CatalogSearch
