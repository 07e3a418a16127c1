import FormModel.Dict
import FormModel.FormData

/-!
The arguments of the program: a command, its operands in their order, and options anywhere among them.  An
option may be given once.  Behind two dashes everything is an operand.
-/

namespace FormModel

/-- What the program is asked to do. -/
inductive Command where
  /-- Says a schema in draft 6. -/
  | normalize (schema : String) (output : Option String) (pretty : Bool)
  /-- Builds the controls for a schema. -/
  | template (schema : String) (data : Option String) (defaults : Bool) (output : Option String)
      (pretty : Bool)
  /-- Gives form data the types of a schema. -/
  | format (schema data : String) (options : FormatOptions) (pretty : Bool)
  /-- Tells what is wrong with a document. -/
  | validate (schema data : String) (json : Bool)
  /-- Prints the value at a pointer. -/
  | pointer (file target : String) (pretty : Bool)
  deriving DecidableEq, Repr

/-- What a call of the program means. -/
inductive Invocation where
  | command (c : Command)
  | version
  | help
  /-- The arguments make no sense. -/
  | misuse
  deriving DecidableEq, Repr

/-- The form of the arguments of a command. -/
structure CommandForm where
  name : String
  /-- The operands; only texts may be empty, paths may not. -/
  operands : List (String × Bool)
  /-- Options without a value. -/
  flags : List String
  /-- Options with a value, which is a path. -/
  settings : List String

/-- Arguments sorted. -/
structure Arguments where
  operands : List String
  flags : List String
  settings : Dict String
  deriving DecidableEq, Repr

namespace Arguments

/-- No arguments. -/
def none : Arguments := ⟨[], [], []⟩

/-- Whether a flag is given. -/
def has (a : Arguments) (flag : String) : Bool := a.flags.contains flag

/-- The value of an option. -/
def setting? (a : Arguments) (name : String) : Option String := Dict.get? a.settings name

/-- The arguments with a flag, unless it is there already. -/
def addFlag? (a : Arguments) (flag : String) : Option Arguments :=
  if a.has flag then Option.none else some { a with flags := a.flags ++ [flag] }

/-- The arguments with an option and its value, unless it is there already. -/
def addSetting? (a : Arguments) (name value : String) : Option Arguments :=
  if Dict.has a.settings name || value.isEmpty then Option.none
  else some { a with settings := Dict.insert a.settings name value }

/-- The arguments with operands at the end. -/
def addOperands (a : Arguments) (operands : List String) : Arguments :=
  { a with operands := a.operands ++ operands }

/-- Whether an argument is an option; a dash by itself is an operand. -/
def isOption (arg : String) : Bool := arg.toList.head? = some '-' && arg ≠ "-"

/-- The name and the value of a long option. -/
def splitOption (arg : String) : String × Option String :=
  let cs := arg.toList.drop 2
  let name := String.ofList (cs.takeWhile (· ≠ '='))
  match cs.dropWhile (· ≠ '=') with
  | _ :: value => (name, some (String.ofList value))
  | [] => (name, Option.none)

/-- The arguments with a group of letters behind one dash. -/
def addLetters? (a : Arguments) (letters : List Char) : Option Arguments :=
  letters.foldlM (fun a c => if c = 'v' then a.addFlag? "verbose" else Option.none) a

/-- Whether an argument asks for help. -/
def asksHelp (arg : String) : Bool := arg == "--help" || arg == "-h"

/-- The arguments of a command sorted; nothing if they do not fit its form. -/
def sort? (form : CommandForm) : List String → Arguments → Option Arguments
  | [], a => some a
  | "--" :: rest, a => some (a.addOperands rest)
  | [arg], a => alone? form arg a
  | arg :: next :: rest, a =>
    let (name, value) := splitOption arg
    if arg.toList.take 2 = ['-', '-'] && form.settings.contains name && value.isNone then
      if isOption next then Option.none else (a.addSetting? name next).bind (sort? form rest)
    else (alone? form arg a).bind (sort? form (next :: rest))
where
  /-- One argument that needs no other. -/
  alone? (form : CommandForm) (arg : String) (a : Arguments) : Option Arguments :=
    if !isOption arg then some (a.addOperands [arg])
    else if arg.toList.take 2 = ['-', '-'] then
      match splitOption arg with
      | (name, some value) => if form.settings.contains name then a.addSetting? name value else Option.none
      | (name, Option.none) =>
        if name = "verbose" || form.flags.contains name then a.addFlag? name else Option.none
    else a.addLetters? (arg.toList.drop 1)

/-- Whether there are as many operands as a command has, none of them empty that may not be. -/
def fits (form : CommandForm) (a : Arguments) : Bool :=
  a.operands.length == form.operands.length &&
    (a.operands.zip form.operands).all fun (text, (_, mayBeEmpty)) => mayBeEmpty || !text.isEmpty

end Arguments

namespace CommandForm

/-- The form of `normalize`. -/
def normalize : CommandForm := ⟨"normalize", [("schema", false)], ["pretty"], ["output"]⟩

/-- The form of `template`. -/
def template : CommandForm :=
  ⟨"template", [("schema", false)], ["defaults", "pretty"], ["data", "output"]⟩

/-- The form of `format`. -/
def format : CommandForm :=
  ⟨"format", [("schema", false), ("data", false)], ["empty-fields", "fix-errors", "pretty"], []⟩

/-- The form of `validate`. -/
def validate : CommandForm := ⟨"validate", [("schema", false), ("data", false)], ["json"], []⟩

/-- The form of `pointer`. -/
def pointer : CommandForm := ⟨"pointer", [("file", false), ("pointer", true)], ["pretty"], []⟩

/-- All forms. -/
def all : List CommandForm := [normalize, template, format, validate, pointer]

end CommandForm

namespace Command

/-- The command of a name with sorted arguments. -/
def ofArguments? (name : String) (a : Arguments) : Option Command :=
  match name, a.operands with
  | "normalize", [schema] => some (.normalize schema (a.setting? "output") (a.has "pretty"))
  | "template", [schema] =>
    some (.template schema (a.setting? "data") (a.has "defaults") (a.setting? "output") (a.has "pretty"))
  | "format", [schema, data] =>
    some (.format schema data ⟨a.has "empty-fields", a.has "fix-errors"⟩ (a.has "pretty"))
  | "validate", [schema, data] => some (.validate schema data (a.has "json"))
  | "pointer", [file, target] => some (.pointer file target (a.has "pretty"))
  | _, _ => none

end Command

namespace Invocation

/-- The meaning of the arguments behind the name of a command. -/
def ofCommand (form : CommandForm) (args : List String) : Invocation :=
  if (args.takeWhile (· ≠ "--")).any Arguments.asksHelp then .help
  else
    match (Arguments.sort? form args .none).filter (Arguments.fits form) with
    | some a => ((Command.ofArguments? form.name a).map .command).getD .misuse
    | none => .misuse

/-- The meaning of a group of letters behind one dash before the command: it goes on, or it is settled. -/
def ofLetters (verbose : Bool) : List Char → Except Invocation Bool
  | [] => .ok verbose
  | 'v' :: rest => if verbose then .error .misuse else ofLetters true rest
  | 'V' :: _ => .error .version
  | 'h' :: _ => .error .help
  | _ => .error .misuse

/-- The meaning of arguments, where `verbose` tells whether more messages have been asked for already. -/
def ofArgumentsFrom (verbose : Bool) : List String → Invocation
  | [] => .misuse
  | arg :: rest =>
    if arg = "--verbose" then (if verbose then .misuse else ofArgumentsFrom true rest)
    else if arg = "--version" then .version
    else if arg = "--help" || arg = "help" then .help
    else if arg.toList.take 2 = ['-', '-'] then .misuse
    else if Arguments.isOption arg then
      match ofLetters verbose (arg.toList.drop 1) with
      | .ok verbose => ofArgumentsFrom verbose rest
      | .error settled => settled
    else
      match CommandForm.all.find? (·.name == arg) with
      | some form => ofCommand form rest
      | none => .misuse

/-- The meaning of arguments. -/
def ofArguments (args : List String) : Invocation := ofArgumentsFrom false args

end Invocation

end FormModel
