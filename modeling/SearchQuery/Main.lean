import SearchQuery.Command.Arguments
import SearchQuery.Command.Basic
import SearchQuery.Settings
/-!
# The command line

Reads the files that a command line names, runs its command and prints what the command has written.
The program carries no messages itself: it is given the answers of the server in a file, one JSON
object a line with the status and the body of one answer. Past the last of them the server cannot be
reached.
-/

namespace SearchQuery

namespace Command

def fileContent (path : String) : IO Settings.FileContent := do
  try
    return some (← IO.FS.readBinFile path)
  catch
    | .noFileOrDirectory .. => return none
    | error => throw error

/-- The text of a file, if it is there. -/
def fileText (path : String) : IO (Option String) := do
  match ← fileContent path with
  | none => return none
  | some bytes =>
    match String.fromUTF8? bytes with
    | some text => return some text
    | none => throw (IO.userError (path ++ " is not valid UTF-8"))

def commandFile (path : String) : IO File := do
  return { name := path, text := ← fileText path }

def importFile : Option String → IO File
  | some path => commandFile path
  | none => do return { name := "-", text := some (← (← IO.getStdin).readToEnd) }

def refuse {α : Type} (message : String) : IO α := throw (IO.userError message)

/-- Goes on with what was computed, or ends the program. -/
def orRefuse {α : Type} (context : String) : Except Error α → IO α
  | .ok value => return value
  | .error error => refuse (context ++ ": " ++ error.message)

def recordedAnswers : Option String → IO (List Http.Answer)
  | none => return []
  | some path => do
    let some text ← fileText path | refuse (path ++ ": file not found")
    let lines := (textLines text.toList).map String.ofList
    let lines := lines.filter fun line => !(trimmed line).isEmpty
    lines.mapM fun line =>
      match (Json.parse line).map Http.Answer.ofJson with
      | some (.ok answer) => return answer
      | _ => refuse (path ++ ": expected an answer on each line")

def openSession (arguments : Arguments) : IO Session := do
  let settings ← orRefuse ("Failed to load config from " ++ arguments.settingsPath)
    (Settings.loadOrDefault (← fileContent arguments.settingsPath))
  let address ← orRefuse "Failed to connect"
    (Http.serverUrl (arguments.url.getD settings.connection.url))
  let answers ← recordedAnswers arguments.answersPath
  return { target := settings.target, query := {}, server := .http address answers }

/-- Runs a command, and prints what it has written. -/
def perform {α : Type} (shell : Shell) (command : Run α) : IO (Option (α × Session)) := do
  let (result, shell) := command.run.run shell
  IO.print shell.out
  IO.eprint shell.err
  match result with
  | .ok value => return some (value, shell.session)
  | .error failure =>
    IO.eprintln failure.message
    return none

def secondsText (milliseconds : Nat) : String := twoPlaces milliseconds 1000 ++ "s"

/-- Runs the command of an invocation; whether it went well. -/
def runInvocation (session : Session) : Invocation → IO Bool
  | .compile path => do return (← perform { session } (compile (← commandFile path))).isSome
  | .search path all => do return (← perform { session } (search (← commandFile path) all)).isSome
  | .get collection id => return (← perform { session } (getDocument collection id)).isSome
  | .delete path conflicts refresh => do
    return (← perform { session } (delete (← commandFile path) conflicts refresh)).isSome
  | .importInto collection path size quiet => do
    let started ← IO.monoMsNow
    let file ← importFile path
    match ← perform { session } (writeDocuments collection file size) with
    | none => return false
    | some (documents, session) =>
      if quiet then return true
      let elapsed := (← IO.monoMsNow) - started
      return (← perform { session } (reportImport documents (secondsText elapsed))).isSome

/-- Runs a command line, and returns the exit code. -/
def run (arguments : List String) : IO UInt32 := do
  match Arguments.parse arguments with
  | .error message =>
    IO.eprintln ("error: " ++ message)
    return 2
  | .ok arguments =>
    try
      let session ← openSession arguments
      return if ← runInvocation session arguments.invocation then 0 else 1
    catch error =>
      IO.eprintln ("Error: " ++ toString error)
      return 1

end Command

end SearchQuery

def main (arguments : List String) : IO UInt32 := SearchQuery.Command.run arguments
