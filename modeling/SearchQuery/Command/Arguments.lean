/-!
# Command lines

The words of a command line, sorted into plain words, switches and options with a value, and the
invocation of a command that they stand for.
-/

namespace SearchQuery

namespace Command

/-- A command with its own arguments. Files are given by their paths. -/
inductive Invocation where
  | compile (path : String)
  | search (path : String) (all : Bool)
  | get (collection id : String)
  | delete (path : String) (conflicts refresh : Option String)
  /-- Without a path the documents come from the standard input. -/
  | importInto (collection : String) (path : Option String) (batchSize : Nat) (quiet : Bool)
deriving DecidableEq

/-- A whole command line. -/
structure Arguments where
  invocation : Invocation
  /-- Where the settings are. -/
  settingsPath : String
  /-- The address of the server, in place of the one in the settings. -/
  url : Option String
  /-- A file of answers that the server has given. -/
  answersPath : Option String
deriving DecidableEq

/-- The words of a command line by their kind. -/
structure Words where
  plain : List String := []
  switches : List String := []
  options : List (String × String) := []

namespace Words

def switchNames : List String := ["--all", "--no-progress"]

def optionNames : List String :=
  ["--config", "--url", "--answers", "--conflicts", "--refresh", "--batch-size"]

def ofList : List String → Except String Words
  | [] => .ok {}
  | word :: rest =>
    if switchNames.contains word then do
      let words ← ofList rest
      return { words with switches := word :: words.switches }
    else if optionNames.contains word then
      match rest with
      | [] => .error ("a value is required for " ++ word)
      | value :: rest => do
        let words ← ofList rest
        return { words with options := (word, value) :: words.options }
    else if word.startsWith "--" then .error ("unexpected argument " ++ word)
    else do
      let words ← ofList rest
      return { words with plain := word :: words.plain }

/-- The value of an option, if it is given. -/
def option? (words : Words) (name : String) : Option String := words.options.lookup name

end Words

/-- How many documents a batch has if nothing else is said. -/
def defaultBatchSize : Nat := 500

def batchSize (words : Words) : Except String Nat :=
  match words.option? "--batch-size" with
  | none => .ok defaultBatchSize
  | some text =>
    if text.toList.all Char.isDigit then
      match text.toNat? with
      | some size => .ok size
      | none => .error "a number is required for --batch-size"
    else .error "a number is required for --batch-size"

def Invocation.ofWords (words : Words) : Except String Invocation :=
  match words.plain with
  | ["compile", path] => .ok (.compile path)
  | ["search", path] => .ok (.search path (words.switches.contains "--all"))
  | ["get", collection, id] => .ok (.get collection id)
  | ["delete", path] =>
    .ok (.delete path (words.option? "--conflicts") (words.option? "--refresh"))
  | ["import", collection] => importing collection none
  | ["import", collection, path] => importing collection (some path)
  | _ => .error "expected compile, search, get, delete or import with its arguments"
where
  /-- An import into a collection. -/
  importing (collection : String) (path : Option String) : Except String Invocation := do
    return .importInto collection path (← batchSize words)
      (words.switches.contains "--no-progress")

/-- Where the settings are if nothing else is said. -/
def defaultSettingsPath : String := "search.toml"

def Arguments.parse (arguments : List String) : Except String Arguments := do
  let words ← Words.ofList arguments
  return {
    invocation := ← Invocation.ofWords words
    settingsPath := (words.option? "--config").getD defaultSettingsPath
    url := words.option? "--url"
    answersPath := words.option? "--answers" }

end Command

end SearchQuery
