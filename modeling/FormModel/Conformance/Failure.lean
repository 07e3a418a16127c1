import FormModel.Json.Printer

/-!
What is wrong with a value in a document, with the wording for it.
-/

namespace FormModel

/-- Something that is wrong, and the pointer to where. -/
structure Failure where
  path : String
  message : String
  deriving DecidableEq, Repr

namespace Failure

/-- The failure on one line. -/
def line (f : Failure) : String := f.path ++ ": " ++ f.message

/-- The failure as an object. -/
def toJson (f : Failure) : Json := .obj [("path", f.path), ("message", f.message)]

end Failure

namespace Wording

/-- A text between double quotes, as it is. -/
def quoted (s : String) : String := "\"" ++ s ++ "\""

/-- Texts with commas between them. -/
def commas (texts : List String) : String := ", ".intercalate texts

/-- A count with what is counted. -/
def counted (n : Nat) (one many : String) : String := toString n ++ " " ++ if n = 1 then one else many

/-- A value is of none of the types. -/
def notOfType (value : Json) : List String → String
  | [type] => value.compact ++ " is not of type " ++ quoted type
  | types => value.compact ++ " is not of types " ++ commas (types.map quoted)

/-- An object lacks a member. -/
def missing (name : String) : String := (Json.str name).compact ++ " is a required property"

/-- A value fits none of the schemas of a combination. -/
def fitsNone (value : Json) (keyword : String) : String :=
  value.compact ++ " is not valid under any of the schemas listed in the '" ++ keyword ++ "' keyword"

/-- A number is too small. -/
def belowMinimum (value limit : Json) : String :=
  value.compact ++ " is less than the minimum of " ++ limit.compact

/-- A number is too small or the limit itself. -/
def notAboveMinimum (value limit : Json) : String :=
  value.compact ++ " is less than or equal to the minimum of " ++ limit.compact

/-- A number is too large. -/
def aboveMaximum (value limit : Json) : String :=
  value.compact ++ " is greater than the maximum of " ++ limit.compact

/-- A number is too large or the limit itself. -/
def notBelowMaximum (value limit : Json) : String :=
  value.compact ++ " is greater than or equal to the maximum of " ++ limit.compact

/-- An array is too short. -/
def fewItems (value : Json) (n : Nat) : String :=
  value.compact ++ " has less than " ++ counted n "item" "items"

/-- An array has equal items. -/
def repeatedItems (value : Json) : String := value.compact ++ " has non-unique elements"

/-- A value is none of those listed. -/
def notListed (value : Json) (values : List Json) : String :=
  value.compact ++ " is not one of " ++ (Json.arr values).compact

/-- A text does not have a format. -/
def notOfFormat (value : Json) (format : String) : String := value.compact ++ " is not a " ++ quoted format

/-- Nothing is allowed. -/
def nothingAllowed (value : Json) : String := "False schema does not allow " ++ value.compact

/-- What was not expected, in the singular or plural. -/
def unexpected (what : String) (texts : List String) : String :=
  "Additional " ++ what ++ " are not allowed (" ++ commas texts ++
    (if texts.length = 1 then " was unexpected)" else " were unexpected)")

end Wording

end FormModel
