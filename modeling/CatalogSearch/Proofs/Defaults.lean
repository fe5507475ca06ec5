import CatalogSearch.Proofs.Partial
import CatalogSearch.Settings
/-!
Settings of which only a part is written. The main statement is `Settings.decode_partial`: where members of the
JSON form of some settings are left out, single fields or whole sections, the rest is decoded to the same settings
with the defaults in their places; members of other names make no difference.
-/
namespace CatalogSearch
open Json (Decoder Record PrintedWithout)

def SearchSettings.fallBack (s silent : SearchSettings) (out : String → Bool) : SearchSettings where
  url := if out "url" then silent.url else s.url
  indexStem := if out "index_prefix" then silent.indexStem else s.indexStem
  defaultPageSize := if out "default_page_size" then silent.defaultPageSize else s.defaultPageSize
  maxPageSize := if out "max_page_size" then silent.maxPageSize else s.maxPageSize
  timeoutSeconds := if out "request_timeout_seconds" then silent.timeoutSeconds else s.timeoutSeconds

def LoggingSettings.fallBack (s silent : LoggingSettings) (out : String → Bool) : LoggingSettings where
  level := if out "level" then silent.level else s.level
  json := if out "json" then silent.json else s.json
  fileEnabled := if out "file_enabled" then silent.fileEnabled else s.fileEnabled
  fileDirectory := if out "file_directory" then silent.fileDirectory else s.fileDirectory
  fileStem := if out "file_prefix" then silent.fileStem else s.fileStem
  fileRotation := if out "file_rotation" then silent.fileRotation else s.fileRotation

namespace Settings

/-- The settings with the default in the place of each field and each section that is left out. -/
def fallBack (s : Settings) (out : List String → Bool) : Settings :=
  let silent : Settings := {}
  { search :=
      if out ["search"] then silent.search
      else s.search.fallBack silent.search fun name => out ["search", name]
    logging :=
      if out ["logging"] then silent.logging
      else s.logging.fallBack silent.logging fun name => out ["logging", name] }

def fieldsOf (part : String) : List String :=
  if part = "search" then SearchSettings.fields else LoggingSettings.fields

def knownSection (part : String) : Json.Document → Json.Document := Json.Document.known (fieldsOf part) fun _ d => d

def known : Json.Document → Json.Document := Json.Document.known ["search", "logging"] knownSection

def Alike : Json → Json → Prop :=
  Json.AgreeOn ["search", "logging"] fun part => Json.AgreeOn (fieldsOf part) fun _ => Eq

theorem Alike.refl (v : Json) : Alike v v :=
  Json.AgreeOn.refl (fun _ _ => Json.AgreeOn.refl fun _ _ _ => rfl) v

theorem fallBack_none (s : Settings) : s.fallBack (fun _ => false) = s := rfl

end Settings

section Sections
variable {out : List String → Bool} {v : Json}

theorem SearchSettings.takes_partial (s : SearchSettings)
    (h : Json.AgreeOn fields (fun _ => Eq) (s.toJson.without out) v) :
    Decoder.Takes decode v (s.fallBack {} fun name => out [name]) := by
  intro room d hwrites
  obtain ⟨members, hv, hagree⟩ := Json.AgreeOn.of_object h
  rw [hv] at hwrites
  obtain ⟨r, hr, hholds⟩ := Record.open?_object fields hwrites
  have hurl : r.optional "url" (.nullable .text) none = some (if out ["url"] then none else s.url) := by
    apply hholds.optional_of_leaf hagree (by decide) rfl
    case htakes =>
      cases s.url with
      | none => exact Decoder.takes_null .text
      | some url => exact (Decoder.takes_text url).nullable nofun
    case hleaf => cases s.url <;> exact nofun
  have hindex : r.optional "index_prefix" .text "" = some (if out ["index_prefix"] then "" else s.indexStem) :=
    hholds.optional_of_leaf hagree (by decide) rfl _ (Decoder.takes_text _) nofun
  have hdefault : r.optional "default_page_size" .word usualPageSize =
      some (if out ["default_page_size"] then usualPageSize else s.defaultPageSize) :=
    hholds.optional_of_leaf hagree (by decide) rfl _ (Decoder.takes_word _) nofun
  have hmax : r.optional "max_page_size" .word usualMaxPageSize =
      some (if out ["max_page_size"] then usualMaxPageSize else s.maxPageSize) :=
    hholds.optional_of_leaf hagree (by decide) rfl _ (Decoder.takes_word _) nofun
  have htimeout : r.optional "request_timeout_seconds" .word usualTimeoutSeconds =
      some (if out ["request_timeout_seconds"] then usualTimeoutSeconds else s.timeoutSeconds) :=
    hholds.optional_of_leaf hagree (by decide) rfl _ (Decoder.takes_word _) nofun
  simp only [decode, hr, hurl, hindex, hdefault, hmax, htimeout, Option.bind_eq_bind, Option.bind_some]
  rfl

theorem LoggingSettings.takes_partial (s : LoggingSettings)
    (h : Json.AgreeOn fields (fun _ => Eq) (s.toJson.without out) v) :
    Decoder.Takes decode v (s.fallBack {} fun name => out [name]) := by
  intro room d hwrites
  obtain ⟨members, hv, hagree⟩ := Json.AgreeOn.of_object h
  rw [hv] at hwrites
  obtain ⟨r, hr, hholds⟩ := Record.open?_object fields hwrites
  have hlevel : r.optional "level" .text usualLevel = some (if out ["level"] then usualLevel else s.level) :=
    hholds.optional_of_leaf hagree (by decide) rfl _ (Decoder.takes_text _) nofun
  have hjson : r.optional "json" .flag false = some (if out ["json"] then false else s.json) :=
    hholds.optional_of_leaf hagree (by decide) rfl _ (Decoder.takes_flag _) nofun
  have henabled : r.optional "file_enabled" .flag false =
      some (if out ["file_enabled"] then false else s.fileEnabled) :=
    hholds.optional_of_leaf hagree (by decide) rfl _ (Decoder.takes_flag _) nofun
  have hdirectory : r.optional "file_directory" .text usualFileDirectory =
      some (if out ["file_directory"] then usualFileDirectory else s.fileDirectory) :=
    hholds.optional_of_leaf hagree (by decide) rfl _ (Decoder.takes_text _) nofun
  have hstem : r.optional "file_prefix" .text usualFileStem =
      some (if out ["file_prefix"] then usualFileStem else s.fileStem) :=
    hholds.optional_of_leaf hagree (by decide) rfl _ (Decoder.takes_text _) nofun
  have hrotation : r.optional "file_rotation" .text usualFileRotation =
      some (if out ["file_rotation"] then usualFileRotation else s.fileRotation) :=
    hholds.optional_of_leaf hagree (by decide) rfl _ (Decoder.takes_text _) nofun
  simp only [decode, hr, hlevel, hjson, henabled, hdirectory, hstem, hrotation, Option.bind_eq_bind,
    Option.bind_some]
  rfl

theorem Settings.takes_partial (s : Settings) (h : Alike (s.toJson.without out) v) :
    Decoder.Takes decode v (s.fallBack out) := by
  intro room d hwrites
  obtain ⟨members, hv, hagree⟩ := Json.AgreeOn.of_object h
  rw [hv] at hwrites
  obtain ⟨r, hr, hholds⟩ := Record.open?_object ["search", "logging"] hwrites
  have hsearch : r.optional "search" SearchSettings.decode {} =
      some (if out ["search"] then {} else s.search.fallBack {} fun name => out ["search", name]) := by
    apply hholds.optional_of_without hagree (by decide) rfl
    intro w hw
    exact SearchSettings.takes_partial s.search hw
  have hlogging : r.optional "logging" LoggingSettings.decode {} =
      some (if out ["logging"] then {} else s.logging.fallBack {} fun name => out ["logging", name]) := by
    apply hholds.optional_of_without hagree (by decide) rfl
    intro w hw
    exact LoggingSettings.takes_partial s.logging hw
  simp only [decode, hr, hsearch, hlogging, Option.bind_eq_bind, Option.bind_some]
  rfl

end Sections

section Forms
variable {room : Nat}

theorem SearchSettings.printedWithout_toJson (s : SearchSettings) : PrintedWithout (room + 1) s.toJson := by
  have hurl : PrintedWithout room ((s.url.map Json.string).getD .null) := by
    cases s.url with
    | none => exact Json.printedWithout_of_leaf nofun Json.prints_null
    | some url => exact Json.printedWithout_string url
  apply Json.printedWithout_object
  case hkeys => exact (by decide : fields.Nodup)
  case h => simp [hurl, Json.printedWithout_string, Json.printedWithout_word]

theorem LoggingSettings.printedWithout_toJson (s : LoggingSettings) : PrintedWithout (room + 1) s.toJson := by
  apply Json.printedWithout_object
  case hkeys => exact (by decide : fields.Nodup)
  case h => simp [Json.printedWithout_string, Json.printedWithout_bool]

theorem Settings.printedWithout_toJson (s : Settings) : PrintedWithout (room + 2) s.toJson := by
  apply Json.printedWithout_object
  case hkeys => exact (by decide : ["search", "logging"].Nodup)
  case h => simp [SearchSettings.printedWithout_toJson, LoggingSettings.printedWithout_toJson]

end Forms

section Known
variable {room : Nat}

theorem SearchSettings.decode_known (d : Json.Document) :
    decode room (Settings.knownSection "search" d) = decode room d := by
  have hopen := @Record.open?_known room fields d
  simp only [decode, Settings.knownSection, Settings.fieldsOf, if_pos, hopen]

theorem LoggingSettings.decode_known (d : Json.Document) :
    decode room (Settings.knownSection "logging" d) = decode room d := by
  have hopen := @Record.open?_known room fields d
  have hfields : Settings.fieldsOf "logging" = fields := rfl
  simp only [decode, Settings.knownSection, hfields, hopen]

theorem Settings.decode_known (d : Json.Document) : decode room (known d) = decode room d := by
  cases d with
  | object members =>
    simp only [decode, known, Record.open?_known_object]
    cases Record.open? ["search", "logging"] room (.object members) with
    | none => rfl
    | some r =>
      simp only [Option.map_some, Option.bind_eq_bind, Option.bind_some]
      rw [Record.optional_map knownSection (fun _ => SearchSettings.decode_known),
        Record.optional_map knownSection (fun _ => LoggingSettings.decode_known)]
  | _ => rfl

end Known

theorem Settings.takes_form (s : Settings) : Decoder.Takes decode s.toJson s := by
  have halike : Alike (s.toJson.without fun _ => false) s.toJson := by
    rw [Json.without_none]
    exact Alike.refl s.toJson
  have htakes := takes_partial s halike
  rwa [fallBack_none] at htakes

theorem Settings.decode_printed_partial (s : Settings) (out : List String → Bool) :
    (Json.Document.read? (Json.compact (s.toJson.without out))).bind (decode Json.Document.depthLimit) =
      some (s.fallBack out) := by
  obtain ⟨d, hd⟩ := printedWithout_toJson s out
  rw [hd.read?, Option.bind_some]
  exact takes_partial s (Alike.refl _) _ d hd.toWrites

/-- Where members of the form of some settings are left out, what is decoded is these settings with the defaults in
the places of those; order and members of other names make no difference. With nothing left out, settings are
decoded from their form. Either holds of the printed form. -/
theorem Settings.decode_partial (s : Settings) (out : List String → Bool) :
    (∀ room d v, Alike (s.toJson.without out) v → Json.Document.Writes room (known d) v →
      decode room d = some (s.fallBack out)) ∧
    (∀ room d, Json.Document.Writes room d s.toJson → decode room d = some s) ∧
    (Json.Document.read? (Json.compact (s.toJson.without out))).bind (decode Json.Document.depthLimit) =
      some (s.fallBack out) ∧
    (Json.Document.read? (Json.compact s.toJson)).bind (decode Json.Document.depthLimit) = some s := by
  refine ⟨?rest, takes_form s, decode_printed_partial s out, ?printed⟩
  case rest =>
    intro room d v halike hwrites
    rw [← decode_known]
    exact takes_partial s halike room _ hwrites
  case printed =>
    have hprinted := decode_printed_partial s fun _ => false
    rwa [Json.without_none, fallBack_none] at hprinted

namespace Settings

def probe : Settings := { search := { url := some "http://localhost:9200", indexStem := "lab_", maxPageSize := 500 } }

def leftOut (path : List String) : Bool :=
  path != ["search"] && path != ["search", "url"] && path != ["search", "max_page_size"]

def probeDocument : Json.Document :=
  .object [
    (.printed "owner", .null),
    (.printed "search", .object [
      (.printed "max_page_size", .number (.natural 500)),
      (.printed "boost", .array [.number (.natural 1)]),
      (.printed "url", .string (.printed "http://localhost:9200"))])]

def probeValue : Json :=
  .object [("search", .object [("max_page_size", .ofWord 500), ("url", .string "http://localhost:9200")])]

theorem probeValue_alike : Alike (probe.toJson.without leftOut) probeValue := by
  have hform : probe.toJson.without leftOut = .object [("search", .object [
      ("url", .string "http://localhost:9200"), ("max_page_size", .ofWord 500)])] := rfl
  rw [hform]
  simp [Alike, Json.AgreeOn, probeValue, Table.find?, fieldsOf, SearchSettings.fields]

theorem known_probeDocument_writes :
    Json.Document.Writes Json.Document.depthLimit (known probeDocument) probeValue := by
  have hknown : known probeDocument = .object [(.printed "search", .object [
      (.printed "max_page_size", .number (.natural 500)),
      (.printed "url", .string (.printed "http://localhost:9200"))])] := by
    simp [known, probeDocument, Json.Document.known, Json.Document.knownMember?, knownSection, fieldsOf,
      SearchSettings.fields]
  rw [hknown]
  refine (Json.prints_object (.cons ⟨rfl, ?search⟩ .nil) (by decide)).toWrites
  case search =>
    exact Json.prints_object (.cons ⟨rfl, Json.prints_word 500⟩
      (.cons ⟨rfl, Json.prints_string "http://localhost:9200"⟩ .nil)) (by decide)

theorem decode_partial_probe :
    decode Json.Document.depthLimit probeDocument =
      some { search := { url := some "http://localhost:9200", maxPageSize := 500 } } :=
  (decode_partial probe leftOut).1 _ _ _ probeValue_alike known_probeDocument_writes

end Settings

end CatalogSearch
