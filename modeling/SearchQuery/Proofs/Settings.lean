import SearchQuery.Proofs.Query.Leaves
import SearchQuery.Proofs.Toml.Lines
import SearchQuery.Settings
/-!
# Saved settings

A settings file has one line for each setting. What is read from a file that was written is the
settings it was written from, whatever texts they hold. Settings are validated when they are read
only, so settings that are not valid are saved in a file that is refused.
-/

namespace SearchQuery

open Datum Toml

theorem connectionSettings_written {settings : ConnectionSettings}
    (h : settings.timeout < 2 ^ 64) :
    ConnectionSettings.read (ofWritten true settings.toJson) = .ok settings := by
  obtain ⟨url, timeout⟩ := settings
  have hfields := @membersOf_hold true [("url", .str url), ("timeout_secs", .int timeout)]
    (.inr rfl)
  have hurl := hfields.given 0 "url" "http://127.0.0.1:9200" (readText_written url)
  have htimeout := hfields.given 1 "timeout_secs" 30 (readCount_written h)
  simp only [ConnectionSettings.toJson, ConnectionSettings.read, fields_written, Fields.atMost,
    hurl, htimeout, bind_eq_ok, pure_eq_ok, Except.ok.injEq, exists_eq_left', exists_const,
    and_self]

theorem target_written (target : Target) :
    Target.read (ofWritten true target.toJson) = .ok target := by
  obtain ⟨pattern, suffix⟩ := target
  have hfields := @membersOf_hold true
    [("date_format", .str pattern), ("index_suffix", .str suffix)] (.inr rfl)
  have hpattern := hfields.given 0 "date_format" "%+" (readText_written pattern)
  have hsuffix := hfields.given 1 "index_suffix" "" (readText_written suffix)
  simp only [Target.toJson, Target.read, fields_written, Fields.atMost, hpattern,
    hsuffix, bind_eq_ok, pure_eq_ok, Except.ok.injEq, exists_eq_left', exists_const, and_self]

theorem loggingSettings_written (settings : LoggingSettings) :
    LoggingSettings.read (ofWritten true settings.toJson) = .ok settings := by
  obtain ⟨level⟩ := settings
  have hfields := @membersOf_hold true [("level", .str level)] (.inr rfl)
  have hlevel := hfields.given 0 "level" "info" (readText_written level)
  simp only [LoggingSettings.toJson, LoggingSettings.read, fields_written, Fields.atMost, hlevel,
    bind_eq_ok, pure_eq_ok, Except.ok.injEq, exists_eq_left', exists_const, and_self]

namespace Settings

theorem read_written {settings : Settings} (h : settings.connection.timeout < 2 ^ 64) :
    read (ofWritten true settings.toJson) = .ok settings := by
  obtain ⟨connection, target, logging⟩ := settings
  have hfields := @membersOf_hold true [("connection", connection.toJson),
    ("compiler", target.toJson), ("logging", logging.toJson)] (.inr rfl)
  have hconnection := hfields.given 0 "connection" {} (connectionSettings_written h)
  have htarget := hfields.given 1 "compiler" {} (target_written target)
  have hlogging := hfields.given 2 "logging" {} (loggingSettings_written logging)
  simp only [toJson, read, fields_written, Fields.atMost, hconnection, htarget, hlogging,
    bind_eq_ok, pure_eq_ok, Except.ok.injEq, exists_eq_left', exists_const, and_self]

/-- The lines of a settings file. -/
def lines (settings : Settings) : List Line := [
  .table "connection",
  .pair "url" (.text settings.connection.url),
  .pair "timeout_secs" (.whole settings.connection.timeout),
  .blank,
  .table "compiler",
  .pair "date_format" (.text settings.target.datePattern),
  .pair "index_suffix" (.text settings.target.indexSuffix),
  .blank,
  .table "logging",
  .pair "level" (.text settings.logging.level)]

theorem toToml_of_lt {settings : Settings} (h : settings.connection.timeout < 2 ^ 63) :
    settings.toToml = .ok (String.ofList (settings.lines.flatMap Line.written)) := by
  rw [toToml, if_pos h]
  congr 1
  apply String.toList_inj.mp
  simp only [String.toList_append, String.toList_ofList, quote, Nat.toString_eq_ofList_toDigits]
  simp [lines, Line.written, Scalar.written]

/-- Only a time limit beyond the whole numbers of TOML keeps settings from being written. -/
theorem toToml_eq_ok {settings : Settings} {text : String} (h : settings.toToml = .ok text) :
    settings.connection.timeout < 2 ^ 63 ∧
      text = String.ofList (settings.lines.flatMap Line.written) := by
  by_cases hbound : settings.connection.timeout < 2 ^ 63
  · rw [toToml_of_lt hbound] at h
    exact ⟨hbound, (Except.ok.inj h).symm⟩
  · rw [toToml, if_neg hbound] at h
    cases h

theorem fits_lines {settings : Settings} (h : settings.connection.timeout < 2 ^ 63) :
    ∀ line ∈ settings.lines, line.Fits := by
  have hkeys : ∀ key ∈ ["connection", "url", "timeout_secs", "compiler", "date_format",
      "index_suffix", "logging", "level"], IsBareKey key := by
    unfold IsBareKey
    decide
  simp_all [lines, Line.Fits, Scalar.Fits]

/-- The statements of a settings file make the JSON form of the settings. -/
theorem documentValue_lines (settings : Settings) :
    documentValue (settings.lines.flatMap Line.statements) = some settings.toJson.canonical := rfl

theorem ofToml_of_read {text : String} {value : Json} {settings : Settings}
    (hparse : parse text = some value) (hread : read (.ofJson value) = .ok settings) :
    ofToml text = settings.validate := by
  rw [ofToml, hparse]
  dsimp only
  rw [hread]

theorem ofToml_lines {settings : Settings} (h : settings.connection.timeout < 2 ^ 63) :
    ofToml (String.ofList (settings.lines.flatMap Line.written)) = settings.validate := by
  have hparse : parse (String.ofList (settings.lines.flatMap Line.written)) =
      some settings.toJson.canonical := by
    rw [parse_lines (fits_lines h), documentValue_lines]
  have hread : read (ofWritten true settings.toJson) = .ok settings := read_written (by omega)
  rw [ofWritten, if_pos rfl] at hread
  exact ofToml_of_read hparse hread

theorem load_toUTF8 (text : String) : load (some text.toUTF8) = ofToml text := by
  have hvalid : text.toUTF8.IsValidUTF8 := text.isValidUTF8
  rw [load, String.fromUTF8?, dif_pos hvalid]
  rfl

theorem validate_eq_ok_iff (settings : Settings) :
    settings.validate = .ok settings ↔
      settings.connection.timeout ≠ 0 ∧ settings.target.datePattern ≠ "" := by
  unfold validate
  split
  · next htimeout => simp [htimeout]
  · next htimeout =>
    split
    · next hpattern => simp [hpattern]
    · next hpattern => simp [htimeout, hpattern]

/-- A file that settings were saved in is loaded as these very settings, or they are refused as any
settings are. So what was saved is found again if and only if it is valid. -/
theorem load_saved_iff {settings : Settings} {text : String} (h : settings.toToml = .ok text) :
    load (some text.toUTF8) = settings.validate ∧
    (load (some text.toUTF8) = .ok settings ↔
      settings.connection.timeout ≠ 0 ∧ settings.target.datePattern ≠ "") := by
  obtain ⟨hbound, rfl⟩ := toToml_eq_ok h
  have hload := load_toUTF8 (String.ofList (settings.lines.flatMap Line.written))
  rw [ofToml_lines hbound] at hload
  exact ⟨hload, by rw [hload, validate_eq_ok_iff]⟩

/-- Settings whose texts need every form of a TOML string, with the longest time limit. -/
def awkward : Settings where
  connection := { url := "it's \"C:\\temp\"\n", timeout := 2 ^ 63 - 1 }
  target := { datePattern := "\"%Y\" '''%j\r\x7f", indexSuffix := "\\" }
  logging := { level := "\"\"\"\t" }

theorem load_saved_awkward :
    ∃ text, awkward.toToml = .ok text ∧ load (some text.toUTF8) = .ok awkward := by
  have hsaved := @toToml_of_lt awkward (by decide)
  exact ⟨_, hsaved, (load_saved_iff hsaved).2.mpr ⟨by decide, by decide⟩⟩

/-- Settings without time are saved, and the file is refused from then on. -/
theorem saved_without_timeout_refused :
    ∃ text, ({ connection := { timeout := 0 } } : Settings).toToml = .ok text ∧
      load (some text.toUTF8) =
        .error (.settings "connection.timeout_secs must be at least 1") := by
  refine ⟨_, toToml_of_lt (by decide), ?_⟩
  rw [load_toUTF8, ofToml_lines (by decide)]
  rfl

end Settings

end SearchQuery
