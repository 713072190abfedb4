import SearchQuery.Datum.Fields
import SearchQuery.Dsl.Target
import SearchQuery.Error
import SearchQuery.Toml.Parser
import SearchQuery.Toml.Printer
/-!
# Settings

What a user configures: the server, how queries are compiled, and how much is logged. Settings are
kept in a TOML file with one table each; what a file leaves out has its default.
-/

namespace SearchQuery

/-- How the server is reached. -/
structure ConnectionSettings where
  url : String := "http://127.0.0.1:9200"
  /-- How long a request may take, in seconds. -/
  timeout : Nat := 30
deriving DecidableEq

/-- What is logged. -/
structure LoggingSettings where
  level : String := "info"
deriving DecidableEq

/-- All settings. -/
structure Settings where
  connection : ConnectionSettings := {}
  target : Target := {}
  logging : LoggingSettings := {}
deriving DecidableEq

def ConnectionSettings.read (value : Datum) : Reading ConnectionSettings := do
  let fields ← Fields.ofDatum value
  fields.atMost 2
  return {
    url := ← fields.optional 0 "url" "http://127.0.0.1:9200" Datum.readText
    timeout := ← fields.optional 1 "timeout_secs" 30 Datum.readCount }

def ConnectionSettings.toJson (settings : ConnectionSettings) : Json :=
  .obj [("url", .str settings.url), ("timeout_secs", .int settings.timeout)]

def Target.read (value : Datum) : Reading Target := do
  let fields ← Fields.ofDatum value
  fields.atMost 2
  return {
    datePattern := ← fields.optional 0 "date_format" "%+" Datum.readText
    indexSuffix := ← fields.optional 1 "index_suffix" "" Datum.readText }

def Target.toJson (target : Target) : Json :=
  .obj [("date_format", .str target.datePattern), ("index_suffix", .str target.indexSuffix)]

def LoggingSettings.read (value : Datum) : Reading LoggingSettings := do
  let fields ← Fields.ofDatum value
  fields.atMost 1
  return { level := ← fields.optional 0 "level" "info" Datum.readText }

def LoggingSettings.toJson (settings : LoggingSettings) : Json :=
  .obj [("level", .str settings.level)]

namespace Settings

def read (value : Datum) : Reading Settings := do
  let fields ← Fields.ofDatum value
  fields.atMost 3
  return {
    connection := ← fields.optional 0 "connection" {} ConnectionSettings.read
    target := ← fields.optional 1 "compiler" {} Target.read
    logging := ← fields.optional 2 "logging" {} LoggingSettings.read }

def toJson (settings : Settings) : Json :=
  .obj [("connection", settings.connection.toJson), ("compiler", settings.target.toJson),
    ("logging", settings.logging.toJson)]

/-- Refuses settings that cannot work. -/
def validate (settings : Settings) : Except Error Settings :=
  if settings.connection.timeout = 0 then
    .error (.settings "connection.timeout_secs must be at least 1")
  else if settings.target.datePattern = "" then
    .error (.settings "compiler.date_format must not be empty")
  else .ok settings

def ofToml (text : String) : Except Error Settings := do
  let some value := Toml.parse text | .error (.tomlDecode "invalid TOML")
  match read (.ofJson value) with
  | .ok settings => settings.validate
  | .error reason => .error (.tomlDecode reason)

/-- The text of a settings file. The greatest whole number of TOML bounds the time limit. -/
def toToml (settings : Settings) : Except Error String :=
  if settings.connection.timeout < 2 ^ 63 then
    .ok ("[connection]\nurl = " ++ Toml.quote settings.connection.url
      ++ "\ntimeout_secs = " ++ toString settings.connection.timeout
      ++ "\n\n[compiler]\ndate_format = " ++ Toml.quote settings.target.datePattern
      ++ "\nindex_suffix = " ++ Toml.quote settings.target.indexSuffix
      ++ "\n\n[logging]\nlevel = " ++ Toml.quote settings.logging.level ++ "\n")
  else .error (.tomlEncode "number out of range")

/-- What is found in the place of a file: nothing, or bytes. -/
abbrev FileContent := Option ByteArray

def load (file : FileContent) : Except Error Settings :=
  match file with
  | none => .error (.io "file not found")
  | some bytes =>
    match String.fromUTF8? bytes with
    | some text => ofToml text
    | none => .error (.io "file is not valid UTF-8")

/-- Settings from a file, or the default where there is none. -/
def loadOrDefault (file : FileContent) : Except Error Settings :=
  match file with
  | none => .ok {}
  | some _ => load file

end Settings

end SearchQuery
