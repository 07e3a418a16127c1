import FormModel.CommandLine.Arguments
import FormModel.Conformance
import FormModel.Context.Build
import FormModel.Document

/-!
What the program does.  A run sees the files it reads and its standard input, and results in an exit code,
in what it prints, and in a file to be written.
-/

namespace FormModel

/-- What a run can see.  The standard input can be read once; after that there is nothing left of it. -/
structure Surroundings where
  file : String → FileState
  input : ByteArray

/-- What a run results in. -/
structure Outcome where
  code : Nat
  output : String
  errors : String
  /-- The path and the text of a file to be written. -/
  written : Option (String × String)
  deriving DecidableEq, Repr

namespace Outcome

/-- A run that only prints. -/
def printing (text : String) : Outcome := ⟨0, text ++ "\n", "", none⟩

/-- A run that fails with a message. -/
def failing (code : Nat) (message : String) : Outcome := ⟨code, "", message ++ "\n", none⟩

/-- The run if its file could not be written. -/
def afterFailedWrite (path : String) (e : SystemError) : Outcome :=
  failing 3 ("Error writing to " ++ path ++ ": " ++ e.message)

/-- A failing run that reports the failure of a validation as well. -/
def reporting (o : Outcome) (json : Bool) (message : String) : Outcome :=
  if json then
    let report : Json := .obj [("valid", .bool false), ("error", .str message)]
    { o with output := o.output ++ report.compact ++ "\n" }
  else { o with errors := o.errors ++ "Error: " ++ message ++ "\n" }

end Outcome

/-- A part of a run; it may end the run. -/
abbrev Run := StateT Surroundings (Except Outcome)

namespace CommandLine

/-- Whether a path stands for the standard input. -/
def isInput (path : String) : Bool :=
  match path.toList with
  | '-' :: rest => (rest == []) || (rest.head? == some '/' && isNowhere rest)
  | _ => false
where
  /-- Whether a path leads from a place to the same place. -/
  isNowhere : List Char → Bool
    | [] => true
    | '/' :: rest => isNowhere rest
    | '.' :: '/' :: rest => isNowhere rest
    | ['.'] => true
    | _ => false

/-- What stands at a path, and what is left of the surroundings. -/
def read (path : String) (s : Surroundings) : FileState × Surroundings :=
  if isInput path then (.content s.input, { s with input := ByteArray.empty }) else (s.file path, s)

/-- Loads a document, which the message of a failure calls `what`. -/
def load (what path : String) (check : Json → Except LoadError Json) : Run Json := fun s =>
  let (state, s) := read path s
  match (Document.ofFile path state).bind check with
  | .ok document => .ok (document, s)
  | .error e => .error (.failing e.exitCode ("Error loading " ++ what ++ ": " ++ e.message))

/-- Loads a schema. -/
def loadSchema (path : String) : Run Json := load "schema" path Document.asSchema

/-- Loads data. -/
def loadData (path : String) : Run Json := load "data" path .ok

/-- Prints a value, or writes it to a file. -/
def emit (value : Json) (pretty : Bool) (output : Option String) : Outcome :=
  let text := if pretty then value.pretty else value.compact
  match output with
  | some path => ⟨0, "", "", some (path, text)⟩
  | none => .printing text

/-- The result of a part of a run, with the failure of a validation reported if the run ends there. -/
def reportingFailure (json : Bool) (message : String) (part : Run Json) : Run Json := fun s =>
  match part s with
  | .ok r => .ok r
  | .error o => .error (o.reporting json message)

/-- The controls for a schema and data; they have to have an end. -/
def compiled (schema data : Json) (defaults : Bool) : Run Compilation :=
  match compile? schema data defaults with
  | some out => return out
  | none => throw (.failing 2 "Error: the form has no end")

/-- The result of a validation. -/
def verdict (json : Bool) : Except ConformanceError Unit → Outcome
  | .ok _ => .printing (if json then (Json.obj [("valid", .bool true)]).compact else "Valid")
  | .error (.invalid failures) =>
    if json then
      let report : Json :=
        .obj [("valid", .bool false), ("errors", .arr (failures.map Failure.toJson))]
      { Outcome.printing report.compact with code := 1 }
    else
      .failing 1 ("\n".intercalate ("Validation failed:" :: failures.map fun f => "  " ++ f.line))
  | .error e => (Outcome.mk e.exitCode "" "" none).reporting json e.message

/-- Carries out a command. -/
def perform : Command → Run Outcome
  | .normalize schema output pretty => do
    let schema ← loadSchema schema
    return emit (Draft.normalize schema) pretty output
  | .template schema data defaults output pretty => do
    let schema ← loadSchema schema
    let data ← match data with
      | some path => loadData path
      | none => pure .null
    let out ← compiled (Draft.normalize schema) data defaults
    let report : Json := .obj
      [("template", (out.template.map Template.toJson).getD .null),
        ("options", out.context.optionsToJson), ("references", out.context.libraryToJson)]
    return emit report pretty output
  | .format schema data options pretty => do
    let schema ← loadSchema schema
    let data ← loadData data
    let out ← compiled (Draft.normalize schema) data false
    return emit (FormData.format out.context options data) pretty none
  | .validate schema data json => do
    let schema ← reportingFailure json "schema could not be loaded" (loadSchema schema)
    let data ← reportingFailure json "data could not be loaded" (loadData data)
    return verdict json (Conformance.conformToAny schema data)
  | .pointer file target pretty => do
    let document ← load "document" file .ok
    match Pointer.parse target with
    | .error e => return .failing 2 ("Error: " ++ e.message)
    | .ok tokens =>
      match document.getTokens? tokens with
      | some value => return emit value pretty none
      | none => return .failing 1 ("Error: nothing at " ++ target)

/-- The paths that a command reads. -/
def paths : Command → List String
  | .normalize schema _ _ => [schema]
  | .template schema data _ _ _ => schema :: data.toList
  | .format schema data _ _ => [schema, data]
  | .validate schema data _ => [schema, data]
  | .pointer file _ _ => [file]

/-- The name and the version of the program. -/
def versionText : String := "schema-form 0.1.0"

/-- How the program is called. -/
def usageText : String :=
  "Usage: schema-form [--verbose] COMMAND\n" ++
  "  normalize SCHEMA [--output FILE] [--pretty]\n" ++
  "  template SCHEMA [--data FILE] [--defaults] [--output FILE] [--pretty]\n" ++
  "  format SCHEMA DATA [--empty-fields] [--fix-errors] [--pretty]\n" ++
  "  validate SCHEMA DATA [--json]\n" ++
  "  pointer FILE POINTER [--pretty]"

/-- Carries out a call of the program. -/
def run (call : Invocation) (s : Surroundings) : Outcome :=
  match call with
  | .version => .printing versionText
  | .help => .printing usageText
  | .misuse => .failing 2 usageText
  | .command c =>
    match (perform c).run' s with
    | .ok o => o
    | .error o => o

end CommandLine

end FormModel
