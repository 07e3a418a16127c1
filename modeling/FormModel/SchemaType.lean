import FormModel.Decimal.Reading
import FormModel.Json

/-!
The primitive types of a schema, and what form values count as.  The fields of a form give strings, so a
string that spells a number or a flag counts as one.
-/

namespace FormModel

/-- A primitive type of a schema. -/
inductive SchemaType where
  | array
  | boolean
  | integer
  | null
  | number
  | object
  | string
  deriving DecidableEq, Repr

namespace SchemaType

/-- All types, in alphabetical order. -/
def all : List SchemaType := [.array, .boolean, .integer, .null, .number, .object, .string]

/-- The name of a type. -/
def name : SchemaType → String
  | array => "array"
  | boolean => "boolean"
  | integer => "integer"
  | null => "null"
  | number => "number"
  | object => "object"
  | string => "string"

/-- The type of a name. -/
def ofName? (s : String) : Option SchemaType := all.find? (·.name == s)

/-- The names of all types. -/
def names : List String := all.map name

theorem mem_all (t : SchemaType) : t ∈ all := by cases t <;> decide

theorem ofName?_name (t : SchemaType) : ofName? t.name = some t := by cases t <;> decide

/-- The types in the value of a `type` keyword; other names are passed over. -/
def listOf : Json → List SchemaType
  | .str s => (ofName? s).toList
  | .arr names => names.filterMap fun t => t.string?.bind ofName?
  | _ => []

end SchemaType

namespace Json

/-- Neither `null` nor the empty string. -/
def hasValue : Json → Bool
  | .null => false
  | .str s => !s.isEmpty
  | _ => true

/-- `null` or an empty string, array or object. -/
def isEmpty : Json → Bool
  | .null => true
  | .str s => s.isEmpty
  | .arr items => items.isEmpty
  | .obj members => members.isEmpty
  | _ => false

/-- The number that a value is or spells. -/
def asNumber? : Json → Option Float
  | .num n => some n.toFloat
  | .str s => Decimal.parse? s
  | _ => none

/-- Whether a value is or spells a number. -/
def isNumeric (j : Json) : Bool := j.asNumber?.isSome

/-- Whether a value is or spells a whole number. -/
def isInteger (j : Json) : Bool := j.asNumber?.any isWhole

/-- The flag that a value is or spells; `1` and `0` count as flags. -/
def asBool? : Json → Option Bool
  | .bool b => some b
  | .num n => if n.toFloat == 1 then some true else if n.toFloat == 0 then some false else none
  | .str s =>
    let word := String.ofList (Decimal.lowerAscii s.toList)
    if word = "true" ∨ word = "1" then some true
    else if word = "false" ∨ word = "0" then some false
    else none
  | _ => none

/-- Whether a value is or spells a flag. -/
def isFlag (j : Json) : Bool := j.asBool?.isSome

end Json

/-- Whether a form value is acceptable as a type. -/
def SchemaType.accepts : SchemaType → Json → Bool
  | .string, j => j.isStr
  | .number, j => j.isNumeric
  | .integer, j => j.isInteger
  | .boolean, j => j.isFlag
  | .null, j => !j.hasValue
  | .object, j => j.isObj
  | .array, j => j.isArr

end FormModel
