/-!
# Errors

Everything that can go wrong while a query is read, compiled or run, as its cause; `Error.message`
is the wording.
-/

namespace SearchQuery

/-- One item of a write that the server refused. -/
structure ItemFailure where
  id : String
  reason : String
  causedBy : Option String
deriving DecidableEq

/-- The cause of a failure. -/
inductive Error where
  /-- A sub-query that must be one tree has clauses in both its scoring and its filter context. -/
  | conflictingContexts (context : String)
  /-- A word that is no value of an option. -/
  | invalidOption (option value : String) (allowed : List String)
  /-- A text that is no operator, or an operator that the clause cannot have. -/
  | invalidOperator (text : String)
  /-- Items of a write were refused: how many, and the first of them. -/
  | bulkWriteFailed (total : Nat) (failures : List ItemFailure)
  /-- The server refused a request. -/
  | transport (status : Option Nat) (body : String)
  /-- No answer came from the server. -/
  | unreachable (what : String)
  /-- The server's answer lacks what is needed. -/
  | malformedResponse (what : String)
  /-- Settings that cannot be used. -/
  | settings (what : String)
  /-- A JSON text or value that does not have the required form. -/
  | json (what : String)
  /-- A YAML text that does not have the required form. -/
  | yaml (what : String)
  /-- A TOML text that does not have the required form. -/
  | tomlDecode (what : String)
  /-- A value that TOML cannot write. -/
  | tomlEncode (what : String)
  /-- A file that cannot be read. -/
  | io (what : String)
deriving DecidableEq

/-- The failure on one line: the item, the reason and, if known, its cause. -/
def ItemFailure.message (failure : ItemFailure) : String :=
  failure.id ++ ": " ++ failure.reason ++
    match failure.causedBy with
    | some cause => ": " ++ cause
    | none => ""

def Error.message : Error → String
  | .conflictingContexts context =>
    "Cannot use both filter and query contexts within a " ++ context ++ " context"
  | .invalidOption option value allowed =>
    value ++ " is an invalid " ++ option ++ " option, valid options are: "
      ++ ", ".intercalate allowed
  | .invalidOperator text => "Invalid operator: " ++ text
  | .bulkWriteFailed total failures =>
    "Bulk write errors (showing " ++ toString failures.length ++ " of " ++ toString total ++ "):\n"
      ++ "\n".intercalate (failures.map ItemFailure.message)
  | .transport status body =>
    "Transport error" ++ (match status with
      | some code => " (" ++ toString code ++ ")"
      | none => "") ++ ": " ++ body
  | .unreachable what => "HTTP error: " ++ what
  | .malformedResponse what => "Malformed response: " ++ what
  | .settings what => "Config error: " ++ what
  | .json what => "JSON error: " ++ what
  | .yaml what => "YAML error: " ++ what
  | .tomlDecode what => "TOML decode error: " ++ what
  | .tomlEncode what => "TOML encode error: " ++ what
  | .io what => "IO error: " ++ what

end SearchQuery
