import CatalogSearch.Json.Printer
import CatalogSearch.Json.Reader
import CatalogSearch.Json.Record
import CatalogSearch.ServiceError
import CatalogSearch.Text.Blank
/-!
Settings of the service and their JSON form. Every member of the form may be left out, and then has its
default.
-/
namespace CatalogSearch

namespace SearchSettings

def usualPageSize : UInt64 := 20
def usualMaxPageSize : UInt64 := 10000
def usualTimeoutSeconds : UInt64 := 30

end SearchSettings

/-- Without an address there is no search index, and every listing is relational. `indexStem` comes before
each index name. -/
structure SearchSettings where
  url : Option String := none
  indexStem : String := ""
  defaultPageSize : UInt64 := SearchSettings.usualPageSize
  maxPageSize : UInt64 := SearchSettings.usualMaxPageSize
  timeoutSeconds : UInt64 := SearchSettings.usualTimeoutSeconds
deriving DecidableEq, Repr

namespace LoggingSettings

def usualLevel : String := "info"
def usualFileDirectory : String := "logs"
def usualFileStem : String := "instrumeta"
def usualFileRotation : String := "daily"

end LoggingSettings

structure LoggingSettings where
  level : String := LoggingSettings.usualLevel
  json : Bool := false
  fileEnabled : Bool := false
  fileDirectory : String := LoggingSettings.usualFileDirectory
  fileStem : String := LoggingSettings.usualFileStem
  fileRotation : String := LoggingSettings.usualFileRotation
deriving DecidableEq, Repr

structure Settings where
  search : SearchSettings := {}
  logging : LoggingSettings := {}
deriving DecidableEq, Repr

namespace SearchSettings

def address? (s : SearchSettings) : Option String := s.url.filter fun url => !Text.isBlankText url

def isEnabled (s : SearchSettings) : Bool := s.address?.isSome

def fields : List String :=
  ["url", "index_prefix", "default_page_size", "max_page_size", "request_timeout_seconds"]

def toJson (s : SearchSettings) : Json :=
  .object [
    ("url", (s.url.map Json.string).getD .null),
    ("index_prefix", .string s.indexStem),
    ("default_page_size", .ofWord s.defaultPageSize),
    ("max_page_size", .ofWord s.maxPageSize),
    ("request_timeout_seconds", .ofWord s.timeoutSeconds)]

def decode : Json.Decoder SearchSettings := fun room d => do
  let r ← Json.Record.open? fields room d
  let url ← r.optional "url" (.nullable .text) none
  let indexStem ← r.optional "index_prefix" .text ""
  let defaultPageSize ← r.optional "default_page_size" .word usualPageSize
  let maxPageSize ← r.optional "max_page_size" .word usualMaxPageSize
  let timeoutSeconds ← r.optional "request_timeout_seconds" .word usualTimeoutSeconds
  pure { url, indexStem, defaultPageSize, maxPageSize, timeoutSeconds }

end SearchSettings

namespace LoggingSettings

def fields : List String :=
  ["level", "json", "file_enabled", "file_directory", "file_prefix", "file_rotation"]

def toJson (s : LoggingSettings) : Json :=
  .object [
    ("level", .string s.level),
    ("json", .bool s.json),
    ("file_enabled", .bool s.fileEnabled),
    ("file_directory", .string s.fileDirectory),
    ("file_prefix", .string s.fileStem),
    ("file_rotation", .string s.fileRotation)]

def decode : Json.Decoder LoggingSettings := fun room d => do
  let r ← Json.Record.open? fields room d
  let level ← r.optional "level" .text usualLevel
  let json ← r.optional "json" .flag false
  let fileEnabled ← r.optional "file_enabled" .flag false
  let fileDirectory ← r.optional "file_directory" .text usualFileDirectory
  let fileStem ← r.optional "file_prefix" .text usualFileStem
  let fileRotation ← r.optional "file_rotation" .text usualFileRotation
  pure { level, json, fileEnabled, fileDirectory, fileStem, fileRotation }

end LoggingSettings

namespace Settings

def toJson (s : Settings) : Json :=
  .object [("search", s.search.toJson), ("logging", s.logging.toJson)]

def decode : Json.Decoder Settings := fun room d => do
  let r ← Json.Record.open? ["search", "logging"] room d
  let search ← r.optional "search" SearchSettings.decode {}
  let logging ← r.optional "logging" LoggingSettings.decode {}
  pure { search, logging }

/-- A page of the default size must not be empty and must not be too large. -/
def validate (s : Settings) : Except ServiceError Unit :=
  if s.search.defaultPageSize = 0 then throw (.validation .zeroPageSize)
  else if s.search.maxPageSize < s.search.defaultPageSize then
    throw (.validation (.pageSizeAboveMaximum s.search.defaultPageSize s.search.maxPageSize))
  else pure ()

end Settings
end CatalogSearch
