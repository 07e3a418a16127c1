import FormModel.Json.Reader

/-!
Documents read from files.  What stands at a path is given as it was found; here it is decided what
document that is, and why there is none.
-/

namespace FormModel

/-- An error of the system, with its number. -/
structure SystemError where
  text : String
  number : Nat
  deriving DecidableEq, Repr

namespace SystemError

/-- The text of the error. -/
def message (e : SystemError) : String := e.text ++ " (os error " ++ toString e.number ++ ")"

/-- There is nothing at a path, or at the one it lies in. -/
def noSuchFile : SystemError := ⟨"No such file or directory", 2⟩

/-- A part of a path is a file where a directory is needed. -/
def notADirectory : SystemError := ⟨"Not a directory", 20⟩

/-- A directory stands where a file is needed. -/
def isADirectory : SystemError := ⟨"Is a directory", 21⟩

end SystemError

/-- Why what stands at a path cannot be read as text. -/
inductive ReadFailure where
  | system (e : SystemError)
  | notText
  deriving DecidableEq, Repr

/-- The text of the failure. -/
def ReadFailure.message : ReadFailure → String
  | system e => e.message
  | notText => "stream did not contain valid UTF-8"

/-- What stands at a path. -/
inductive FileState where
  | missing
  | content (bytes : ByteArray)
  | unreadable (e : SystemError)

/-- Why there is no document. -/
inductive LoadError where
  | fileNotFound (path : String)
  | unreadable (path : String) (failure : ReadFailure)
  | invalidJson
  | notASchema (found : String)
  deriving DecidableEq, Repr

namespace LoadError

/-- The text of the error. -/
def message : LoadError → String
  | fileNotFound path => "file not found: " ++ path
  | unreadable path failure => "cannot read " ++ path ++ ": " ++ failure.message
  | invalidJson => "invalid JSON"
  | notASchema found => "not a schema: expected an object or boolean, found " ++ found

/-- The exit code for the error. -/
def exitCode : LoadError → Nat
  | fileNotFound _ => 3
  | unreadable _ _ => 3
  | invalidJson => 2
  | notASchema _ => 2

end LoadError

namespace Document

/-- The document that a text is. -/
def ofText (text : String) : Except LoadError Json :=
  match Json.parse? text with
  | some j => .ok j
  | none => .error .invalidJson

/-- The document in bytes that come from a path. -/
def ofBytes (path : String) (bytes : ByteArray) : Except LoadError Json :=
  match String.fromUTF8? bytes with
  | some text => ofText text
  | none => .error (.unreadable path .notText)

/-- The document in what stands at a path. -/
def ofFile (path : String) : FileState → Except LoadError Json
  | .missing => .error (.fileNotFound path)
  | .content bytes => ofBytes path bytes
  | .unreadable e => .error (.unreadable path (.system e))

/-- A document that can be a schema: an object or a flag. -/
def asSchema (document : Json) : Except LoadError Json :=
  if document.isObj || document.isBool then .ok document else .error (.notASchema document.kind)

end Document

end FormModel
