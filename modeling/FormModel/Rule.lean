import FormModel.FormatTable
import FormModel.Json.Printer
import FormModel.Json.Reader
import FormModel.SchemaType

/-!
Validation rules and what they say about a value.  A rule passes a value or gives a record of what is
wrong, under the name of the rule.  It can be applied in three modes: as it is, turned around, or not at
all.
-/

namespace FormModel

/-- How a rule is applied. -/
inductive Mode where
  /-- The rule has to be kept. -/
  | require
  /-- The rule has to be broken. -/
  | forbid
  /-- Everything passes. -/
  | ignore
  deriving DecidableEq, Repr

/-- The mode that asks for the opposite. -/
def Mode.invert : Mode → Mode
  | require => forbid
  | forbid => require
  | ignore => ignore

@[simp] theorem Mode.invert_invert (m : Mode) : m.invert.invert = m := by cases m <;> rfl

/-- What is wrong with a value, by the names of the rules that say so. -/
abbrev Violations := Dict Json

namespace Violations

/-- One entry merged into a record: two objects under one key are merged, else the later value stays. -/
def add (merged : Violations) (key : String) (value : Json) : Violations :=
  match Dict.get? merged key, value with
  | some (.obj existing), .obj incoming => Dict.insert merged key (.obj (Dict.extend existing incoming))
  | _, value => Dict.insert merged key value

/-- Records merged in turn. -/
def merge (records : List Violations) : Violations :=
  records.foldl (fun merged record => record.foldl (fun merged (k, v) => add merged k v) merged) []

/-- A record of one entry. -/
def single (name : String) (details : Json) : Violations := [(name, details)]

end Violations

/-- The limits on numbers. -/
inductive Limit where
  | minimum
  | exclusiveMinimum
  | maximum
  | exclusiveMaximum
  deriving DecidableEq, Repr

namespace Limit

/-- The name of the rule. -/
def name : Limit → String
  | minimum => "minimum"
  | exclusiveMinimum => "exclusiveMinimum"
  | maximum => "maximum"
  | exclusiveMaximum => "exclusiveMaximum"

/-- The name of the limit in a record. -/
def detail (l : Limit) : String := l.name ++ "Value"

/-- Whether a number keeps a limit, which it may not reach when `strict`. -/
def admits (l : Limit) (strict : Bool) (value bound : Float) : Bool :=
  match l with
  | minimum => if strict then value > bound else value ≥ bound
  | exclusiveMinimum => value > bound
  | maximum => if strict then value < bound else value ≤ bound
  | exclusiveMaximum => value < bound

end Limit

/-- The limits on the size of a value. -/
inductive SizeLimit where
  | minLength
  | maxLength
  | minItems
  | maxItems
  | minProperties
  | maxProperties
  deriving DecidableEq, Repr

namespace SizeLimit

/-- The name of the rule. -/
def name : SizeLimit → String
  | minLength => "minLength"
  | maxLength => "maxLength"
  | minItems => "minItems"
  | maxItems => "maxItems"
  | minProperties => "minProperties"
  | maxProperties => "maxProperties"

/-- Whether the limit is a lower one. -/
def isLower : SizeLimit → Bool
  | minLength => true
  | minItems => true
  | minProperties => true
  | _ => false

/-- What is counted. -/
def unit : SizeLimit → String
  | minLength => "Length"
  | maxLength => "Length"
  | minItems => "Items"
  | maxItems => "Items"
  | minProperties => "Properties"
  | maxProperties => "Properties"

/-- The size of a value, where the limit applies to it.  A length is that of a string or an array. -/
def measure? (l : SizeLimit) (value : Json) : Option Nat :=
  match l.unit, value with
  | "Length", .str s => some s.length
  | "Length", .arr items => some items.length
  | "Items", .arr items => some items.length
  | "Properties", .obj members => some members.length
  | _, _ => none

/-- The record of a size that breaks the limit. -/
def details (l : SizeLimit) (limit current : Nat) : Json :=
  .obj [((if l.isLower then "minimum" else "maximum") ++ l.unit, .ofNat limit),
    ("current" ++ l.unit, .ofNat current)]

end SizeLimit

/-- A rule. -/
inductive Rule where
  | required
  | type (declared : Json) (types : List SchemaType)
  | enum (allowed : List Json)
  | const (expected : Json)
  | size (l : SizeLimit) (bound : Nat)
  | pattern (source : String) (p : Pattern)
  | format (name : String) (test : FormatTest)
  | bounded (l : Limit) (strict : Bool) (bound : Float) (given : Json)
  | multipleOf (divisor : Float) (given : Json)
  | uniqueItems
  | contains (item : Json)
  /-- By trigger: the names that have to be there too, and rules for members. -/
  | dependencies (checks : List (String × List String × List (String × Rule)))
  | anyOf (members : List Rule)
  | oneOf (members : List Rule)
  | allOf (members : List Rule)
  | not (member : Rule)
  | atLeast (bound : Float)
  | atMost (bound : Float)
  | requiredTrue
  | email (test : FormatTest)
  /-- A rule made elsewhere. -/
  | custom (judge : Json → Mode → Option Violations)

namespace Json

/-- Equality under which the strings of a form match the values of a schema. -/
def matchesValue (a b : Json) : Bool :=
  a.same b ||
    match a, b with
    | .num _, _ => sameNumber a b
    | _, .num _ => sameNumber a b
    | .bool _, .str _ => sameFlag a b
    | .str _, .bool _ => sameFlag a b
    | _, _ => false
where
  /-- Both are or spell the same number. -/
  sameNumber (a b : Json) : Bool :=
    match a.asNumber?, b.asNumber? with
    | some x, some y => x == y
    | _, _ => false
  /-- Both are or spell the same flag. -/
  sameFlag (a b : Json) : Bool :=
    match a.asBool?, b.asBool? with
    | some x, some y => x == y
    | _, _ => false

/-- The text of a scalar. -/
def scalarText? : Json → Option String
  | .str s => some s
  | .num n => some n.text
  | .bool b => some (if b then "true" else "false")
  | _ => none

end Json

namespace Rule

/-- Nothing if the verdict is what the mode asks for, else a record. -/
def outcome (valid : Bool) (mode : Mode) (name : String) (details : Json) : Option Violations :=
  if valid != (mode == .forbid) then none else some (Violations.single name details)

/-- The required rule by itself. -/
def checkRequired (value : Json) : Option Violations :=
  if value.hasValue then none else some (Violations.single "required" (.bool true))

/-- Fixed notation without exponent, a whole number without point. -/
def fixedLayout : FloatLayout where
  positional := none
  keepsFraction := false

/-- The number of digits after the point. -/
def decimalPlaces (f : Float) : Nat :=
  (((fixedLayout.render f).toList.dropWhile (· ≠ '.')).drop 1).length

/-- Whether a number is a multiple of another, both scaled to whole numbers first. -/
def isMultiple (value divisor : Float) : Bool :=
  let scale := powNat 10 (max (decimalPlaces value) (decimalPlaces divisor))
  let scaledValue := value * scale
  let scaledDivisor := divisor * scale
  if scaledDivisor.isFinite then
    roundAway scaledDivisor == 0 ||
      (scaledValue.isFinite && roundAway scaledValue % roundAway scaledDivisor == 0)
  else scaledValue.isFinite && roundAway scaledValue == 0

/-- The items that come more than once, in the order of their texts. -/
def duplicates (items : List Json) : List Json :=
  let texts := (items.map Json.compact).mergeSort fun a b => a ≤ b
  (texts.zip texts.tail).foldl
    (fun found (a, b) =>
      if a = b then
        match Json.parse? a with
        | some item => if found.any (·.same item) then found else found ++ [item]
        | none => found
      else found)
    []

/-- What the rule applied to a value that is not empty says, for the rules that pass empty values. -/
def ifPresent (value : Json) (verdict : Option Violations) : Option Violations :=
  if value.isEmpty then none else verdict

/-- The names of siblings that have no value. -/
def missing (object : Dict Json) (names : List String) : List String :=
  names.filter fun name => !((object.get? name).any Json.hasValue)

/-- The record of a combination of rules. -/
def combined (valid : Bool) (mode : Mode) (name : String) (parts : List Violations) : Option Violations :=
  if valid != (mode == .forbid) then none
  else some (Violations.merge (parts ++ [Violations.single name (.bool (mode == .require))]))

mutual
/-- What a rule says about a value in a mode other than `ignore`. -/
def judge : Rule → Json → Mode → Option Violations
  | required, value, mode => if mode = .forbid then none else checkRequired value
  | type declared types, value, mode =>
    ifPresent value <| outcome (types.any (·.accepts value)) mode "type"
      (.obj [("requiredType", declared), ("currentValue", value)])
  | enum allowed, value, mode =>
    let isAllowed (v : Json) := allowed.any v.matchesValue
    let valid := isAllowed value || (match value with
      | .arr items => items.all isAllowed
      | _ => false)
    ifPresent value <| outcome valid mode "enum"
      (.obj [("allowedValues", .arr allowed), ("currentValue", value)])
  | const expected, value, mode =>
    ifPresent value <| outcome (value.matchesValue expected) mode "const"
      (.obj [("requiredValue", expected), ("currentValue", value)])
  | size l bound, value, mode =>
    ifPresent value <| (l.measure? value).bind fun current =>
      outcome (if l.isLower then bound ≤ current else current ≤ bound) mode l.name
        (l.details bound current)
  | pattern source p, value, mode =>
    ifPresent value <| value.scalarText?.bind fun text =>
      outcome (p.isMatch text) mode "pattern"
        (.obj [("requiredPattern", .str source), ("currentValue", value)])
  | format name test, value, mode =>
    ifPresent value <| value.string?.bind fun text =>
      outcome (test.accepts text) mode "format"
        (.obj [("requiredFormat", .str name), ("currentValue", value)])
  | bounded l strict bound given, value, mode =>
    ifPresent value <| value.asNumber?.bind fun current =>
      outcome (l.admits strict current bound) mode l.name
        (.obj [(l.detail, given), ("currentValue", value)])
  | multipleOf divisor given, value, mode =>
    ifPresent value <| value.asNumber?.bind fun current =>
      outcome (isMultiple current divisor) mode "multipleOf"
        (.obj [("multipleOfValue", given), ("currentValue", value)])
  | uniqueItems, value, mode =>
    ifPresent value <| value.items?.bind fun items =>
      let found := duplicates items
      outcome found.isEmpty mode "uniqueItems" (.obj [("duplicateItems", .arr found)])
  | contains item, value, mode =>
    ifPresent value <| outcome true mode "contains" (.obj [("requiredItem", item)])
  | dependencies checks, value, mode =>
    value.members?.bind fun object =>
      let errors := triggered checks object
      outcome errors.isEmpty mode "dependencies" (.obj errors)
  | anyOf members, value, mode =>
    let failures := verdicts members value .require
    combined (failures.length < members.length) mode "anyOf" failures
  | oneOf members, value, mode =>
    let failures := verdicts members value .require
    combined (members.length - failures.length == 1) mode "oneOf"
      (failures ++ verdicts members value .forbid)
  | allOf members, value, mode =>
    let failures := verdicts members value .require
    combined failures.isEmpty mode "allOf" failures
  | not member, value, mode =>
    ifPresent value <| (judge member value mode.invert).map fun errors =>
      Violations.merge [errors, Violations.single "not" (.bool true)]
  | atLeast bound, value, mode =>
    ifPresent value <| value.asNumber?.bind fun actual =>
      outcome (actual ≥ bound) mode "min" (.obj [("min", .ofFloat bound), ("actual", value)])
  | atMost bound, value, mode =>
    ifPresent value <| value.asNumber?.bind fun actual =>
      outcome (actual ≤ bound) mode "max" (.obj [("max", .ofFloat bound), ("actual", value)])
  | requiredTrue, value, mode =>
    outcome (value.asBool? == some true) mode "required" (.bool true)
  | email test, value, mode =>
    ifPresent value <| value.string?.bind fun text =>
      outcome (test.accepts text) mode "email" (.bool true)
  | custom judge, value, mode => judge value mode

/-- The records that rules give. -/
def verdicts : List Rule → Json → Mode → List Violations
  | [], _, _ => []
  | r :: rest, value, mode =>
    match judge r value mode with
    | some errors => errors :: verdicts rest value mode
    | none => verdicts rest value mode

/-- The records of the triggers that have a value, each under its name. -/
def triggered : List (String × List String × List (String × Rule)) → Dict Json → Violations
  | [], _ => []
  | (trigger, names, rules) :: rest, object =>
    if (object.get? trigger).any Json.hasValue then
      let absent := missing object names
      let base : Violations := if absent.isEmpty then [] else [("required", .arr (absent.map .str))]
      let errors := memberErrors rules object base
      if errors.isEmpty then triggered rest object
      else (trigger, .obj errors) :: triggered rest object
    else triggered rest object

/-- The records of members that break their rules, written under their names. -/
def memberErrors : List (String × Rule) → Dict Json → Violations → Violations
  | [], _, errors => errors
  | (name, r) :: rest, object, errors =>
    match judge r ((object.get? name).getD .null) .require with
    | some e => memberErrors rest object (Dict.insert errors name (.obj e))
    | none => memberErrors rest object errors
end

/-- What a rule says about a value. -/
def check (r : Rule) (value : Json) (mode : Mode) : Option Violations :=
  if mode = .ignore then none else r.judge value mode

/-- Whether a value passes. -/
def isValid (r : Rule) (value : Json) : Bool := (r.check value .require).isNone

/-- All of the rules that there are. -/
def all? (rules : List (Option Rule)) : Option Rule :=
  let members := rules.filterMap id
  if members.isEmpty then none else some (allOf members)

/-- Any of the rules that there are. -/
def any? (rules : List (Option Rule)) : Option Rule :=
  let members := rules.filterMap id
  if members.isEmpty then none else some (anyOf members)

/-- Exactly one of the rules that there are. -/
def one? (rules : List (Option Rule)) : Option Rule :=
  let members := rules.filterMap id
  if members.isEmpty then none else some (oneOf members)

end Rule

end FormModel
