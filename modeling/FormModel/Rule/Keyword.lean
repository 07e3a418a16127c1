import FormModel.Rule

/-!
Keywords and the rules that they make of their parameters.  Parameters that say nothing make no rule.
-/

namespace FormModel

/-- The names of rules. -/
inductive Keyword where
  | required
  | type
  | enum
  | const
  | minLength
  | maxLength
  | pattern
  | format
  | minimum
  | exclusiveMinimum
  | maximum
  | exclusiveMaximum
  | multipleOf
  | minProperties
  | maxProperties
  | dependencies
  | minItems
  | maxItems
  | uniqueItems
  | contains
  | min
  | max
  | requiredTrue
  | email
  deriving DecidableEq, Repr

namespace Keyword

/-- All keywords. -/
def all : List Keyword := [
  .required, .type, .enum, .const, .minLength, .maxLength, .pattern, .format, .minimum, .exclusiveMinimum,
  .maximum, .exclusiveMaximum, .multipleOf, .minProperties, .maxProperties, .dependencies, .minItems,
  .maxItems, .uniqueItems, .contains, .min, .max, .requiredTrue, .email]

/-- The name of a keyword. -/
def name : Keyword → String
  | required => "required"
  | type => "type"
  | enum => "enum"
  | const => "const"
  | minLength => "minLength"
  | maxLength => "maxLength"
  | pattern => "pattern"
  | format => "format"
  | minimum => "minimum"
  | exclusiveMinimum => "exclusiveMinimum"
  | maximum => "maximum"
  | exclusiveMaximum => "exclusiveMaximum"
  | multipleOf => "multipleOf"
  | minProperties => "minProperties"
  | maxProperties => "maxProperties"
  | dependencies => "dependencies"
  | minItems => "minItems"
  | maxItems => "maxItems"
  | uniqueItems => "uniqueItems"
  | contains => "contains"
  | min => "min"
  | max => "max"
  | requiredTrue => "requiredTrue"
  | email => "email"

/-- The keyword of a name. -/
def ofName? (s : String) : Option Keyword := all.find? (·.name == s)

theorem ofName?_name (k : Keyword) : ofName? k.name = some k := by cases k <;> decide

/-- Whether a keyword means in a schema what it means on a control.  `required` does not: it lists names
in a schema and is a flag on a control. -/
def isSchemaKeyword : Keyword → Bool
  | required => false
  | min => false
  | max => false
  | requiredTrue => false
  | email => false
  | _ => true

/-- A count: a number without fraction that is not negative. -/
def count? (param : Option Json) : Option Nat :=
  (param.bind Json.float?).bind fun f => if f ≥ 0 && isWhole f then some (toCount f) else none

/-- A flag with a value for any other parameter. -/
def flagOr (param : Option Json) (default : Bool) : Bool := (param.bind Json.bool?).getD default

/-- The rule of a limit on numbers. -/
def limitRule? (l : Limit) (strict : Bool) (given : Json) : Option Rule :=
  given.asNumber?.map fun bound => .bounded l strict bound given

/-- The rule of a pattern, which is to cover the whole value if `whole`. -/
def patternRule? (source : String) (whole : Bool) : Option Rule :=
  (Pattern.parseAny? (if whole then "^(?:" ++ source ++ ")$" else source)).map (.pattern source)

/-- The rule of a keyword; the one for `dependencies` is handed in. -/
def ruleWith? (formats : FormatTable) (dependencies : Option Rule) (k : Keyword) (params : List Json) :
    Option Rule :=
  let first := params[0]?
  let second := params[1]?
  match k with
  | .required => if flagOr first true then some .required else none
  | .type => first.bind fun declared =>
      let types := SchemaType.listOf declared
      if types.isEmpty then none else some (.type declared types)
  | .enum => (first.bind Json.items?).map .enum
  | .const => first.map .const
  | .minLength => (count? first).map (.size .minLength)
  | .maxLength => (count? first).map (.size .maxLength)
  | .pattern => (first.bind Json.string?).bind fun source => patternRule? source (flagOr second false)
  | .format => (first.bind Json.string?).bind fun name => (Dict.get? formats name).map (.format name)
  | .minimum => first.bind (limitRule? .minimum (flagOr second false))
  | .exclusiveMinimum => first.bind (limitRule? .exclusiveMinimum false)
  | .maximum => first.bind (limitRule? .maximum (flagOr second false))
  | .exclusiveMaximum => first.bind (limitRule? .exclusiveMaximum false)
  | .multipleOf => first.bind fun given =>
      (given.asNumber?.filter (· > 0)).map fun divisor => .multipleOf divisor given
  | .minProperties => (count? first).map (.size .minProperties)
  | .maxProperties => (count? first).map (.size .maxProperties)
  | .dependencies => dependencies
  | .minItems => (count? first).map (.size .minItems)
  | .maxItems => (count? first).map (.size .maxItems)
  | .uniqueItems => if flagOr first false then some .uniqueItems else none
  | .contains => first.map .contains
  | .min => (first.bind Json.float?).map .atLeast
  | .max => (first.bind Json.float?).map .atMost
  | .requiredTrue => some .requiredTrue
  | .email => (Dict.get? formats "email").map .email

/-- The strings of an array. -/
def namesOf : Json → List String
  | .arr items => items.filterMap Json.string?
  | _ => []

/-- The rule of one keyword beside others.  A limit is strict if the flag beside it says so, and the flag is
no rule. -/
def siblingRule? (formats : FormatTable) (siblings : Dict Json) (dependencies : Option Rule) (key : String)
    (param : Json) : Option Rule :=
  let isSet (flag : String) : Bool := (siblings.get? flag).any Json.isTrue
  if key = "maximum" then limitRule? .maximum (isSet "exclusiveMaximum") param
  else if key = "minimum" then limitRule? .minimum (isSet "exclusiveMinimum") param
  else if (key = "exclusiveMaximum" ∨ key = "exclusiveMinimum") ∧ param.isBool then none
  else (ofName? key).bind fun k => k.ruleWith? formats dependencies [param]

mutual
/-- The rule of `dependencies`: by trigger, an array of names, or an object with names under `required` and
keywords for members under `properties`. -/
def dependencyRule? (formats : FormatTable) : Json → Option Rule
  | .obj triggers =>
    let checks := dependencyChecks formats triggers
    if checks.isEmpty then none else some (.dependencies checks)
  | _ => none

/-- What each trigger asks for; triggers with other values than arrays and objects are passed over. -/
def dependencyChecks (formats : FormatTable) :
    List (String × Json) → List (String × List String × List (String × Rule))
  | [] => []
  | (trigger, .arr items) :: rest => (trigger, namesOf (.arr items), []) :: dependencyChecks formats rest
  | (trigger, .obj spec) :: rest =>
    (trigger, namesOf ((Dict.get? spec "required").getD .null), propertyRules formats spec) ::
      dependencyChecks formats rest
  | _ :: rest => dependencyChecks formats rest

/-- The rules for members, under `properties`. -/
def propertyRules (formats : FormatTable) : List (String × Json) → List (String × Rule)
  | [] => []
  | (key, .obj properties) :: rest =>
    if key = "properties" then memberRules formats properties else propertyRules formats rest
  | (key, _) :: rest => if key = "properties" then [] else propertyRules formats rest

/-- The rules of members, where their keywords make any. -/
def memberRules (formats : FormatTable) : List (String × Json) → List (String × Rule)
  | [] => []
  | (name, .obj schema) :: rest =>
    match Rule.all? (keywordRules formats schema schema) with
    | some r => (name, r) :: memberRules formats rest
    | none => memberRules formats rest
  | _ :: rest => memberRules formats rest

/-- The rules of keywords beside others. -/
def keywordRules (formats : FormatTable) (siblings : Dict Json) : List (String × Json) → List (Option Rule)
  | [] => []
  | (key, param) :: rest =>
    let nested := if key = "dependencies" then dependencyRule? formats param else none
    siblingRule? formats siblings nested key param :: keywordRules formats siblings rest
end

/-- The rule of a keyword with its parameters. -/
def rule? (formats : FormatTable) (k : Keyword) (params : List Json) : Option Rule :=
  k.ruleWith? formats ((params[0]?).bind (dependencyRule? formats)) params

end Keyword

end FormModel
