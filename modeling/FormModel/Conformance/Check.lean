import FormModel.Conformance.Shape
import FormModel.FormatTable
import FormModel.Pointer

/-!
Checking a value against a schema of some edition.  Every keyword of a schema gives a check of its own,
and a schema reports what its keywords report, in their order.  Keywords that work together, such as
`properties` and `additionalProperties`, look at each other in the node.
-/

namespace FormModel

/-- What is wrong with a value that stands at a path. -/
abbrev Check := (value : Json) → (path : String) → List Failure

namespace Check

/-- Nothing is wrong with any value. -/
def pass : Check := fun _ _ => []

/-- Whether nothing is wrong with a value. -/
def passes (c : Check) (value : Json) : Bool := (c value "").isEmpty

/-- One thing is wrong where a test is not passed. -/
def that (ok : Json → Bool) (message : Json → String) : Check := fun value path =>
  if ok value then [] else [⟨path, message value⟩]

/-- Nothing passes. -/
def never : Check := that (fun _ => false) Wording.nothingAllowed

/-- A check of numbers. -/
def ofNumber (ok : Number → Bool) (message : Json → String) : Check :=
  that (fun
    | .num n => ok n
    | _ => true) message

/-- A check of the size that a kind of value has. -/
def ofSize (size? : Json → Option Nat) (ok : Nat → Bool) (message : Json → String) : Check :=
  that (fun value => (size? value).all ok) message

/-- All that checks say of a value. -/
def all (checks : List Check) : Check := fun value path => checks.flatMap fun c => c value path

/-- A check of every item of an array from a position on. -/
def ofItems (start : Nat) (c : Check) : Check := fun value path =>
  match value with
  | .arr items =>
    ((items.zipIdx).drop start).flatMap fun (item, i) => c item (path ++ "/" ++ toString i)
  | _ => []

/-- Checks of the items of an array, position by position. -/
def ofTuple (checks : List Check) : Check := fun value path =>
  match value with
  | .arr items =>
    ((items.zip checks).zipIdx).flatMap fun ((item, c), i) => c item (path ++ "/" ++ toString i)
  | _ => []

end Check

/-- The value of a keyword, with the checks of the schemas that it may hold. -/
structure Part where
  value : Json
  /-- The check of the value as a schema. -/
  schema : Check
  /-- The checks of its items, if it is a list of schemas. -/
  items : List Check
  /-- The checks of its members, if it has schemas under names. -/
  members : Dict Check

/-- The keywords of a schema. -/
abbrev Node := Dict Part

namespace Node

/-- The value of a keyword. -/
def value? (node : Node) (key : String) : Option Json := (Dict.get? node key).map (·.value)

/-- The checks of the schemas that a keyword has under names. -/
def members (node : Node) (key : String) : Dict Check := ((Dict.get? node key).map (·.members)).getD []

/-- Whether a node says what becomes of members that it does not declare. -/
def rulesExtra (node : Node) : Bool :=
  match node.value? "additionalProperties" with
  | some (.obj _) => true
  | some (.bool b) => !b
  | _ => false

/-- The patterns for names of members, each with the check of the members that it fits. -/
def patterns (node : Node) : List (Pattern × Check) :=
  (node.members "patternProperties").filterMap fun (source, c) =>
    (Conformance.pattern? source).map fun p => (p, c)

/-- The check of a schema under a keyword, which everything passes if it is not there. -/
def schemaAt (node : Node) (key : String) : Check := ((Dict.get? node key).map (·.schema)).getD Check.pass

end Node

namespace Conformance

/-- The number of characters of a string. -/
def textLength? (value : Json) : Option Nat := value.string?.map String.length

/-- The number of items of an array. -/
def itemCount? (value : Json) : Option Nat := value.items?.map List.length

/-- The number of members of an object. -/
def memberCount? (value : Json) : Option Nat := value.members?.map List.length

/-- A lower or upper limit of a size. -/
def sizeCheck (size? : Json → Option Nat) (isLower : Bool) (words one many : String) (given : Json) : Check :=
  match countOf? given with
  | none => Check.pass
  | some n =>
    Check.ofSize size? (fun size => if isLower then n ≤ size else size ≤ n) fun value =>
      value.compact ++ words ++ Wording.counted n one many

/-- The number after the point of a quotient; what is lost in rounding it is not counted. -/
def fractionOf (f : Float) : Float :=
  if f.abs ≥ Float.ofNat 0x20000000000000 then 0 else f - Float.ofInt (truncate f)

/-- Whether a number is a multiple of another.  By a whole divisor only whole numbers are; else the
quotient, as a float, may miss a whole number by the last bit. -/
def isMultiple (value divisor : Number) : Bool :=
  match divisor.whole? with
  | some n => (value.whole?).any fun v => n == 0 || v % n == 0
  | none =>
    let quotient := value.toFloat / divisor.toFloat
    if quotient.isFinite then fractionOf quotient < Float.ofScientific 2220446049250313 true 31
    else value.isExactMultiple divisor

/-- A check by a limit on numbers. -/
def limitCheck (given : Json) (ok : (value limit : Number) → Bool) (message : (value limit : Json) → String) :
    Check :=
  match given with
  | .num limit => Check.ofNumber (ok · limit) (message · given)
  | _ => Check.pass

/-- A lower limit, which in draft 4 a flag beside it may make exclusive. -/
def minimumCheck (edition : Edition) (node : Node) (given : Json) : Check :=
  if edition = .draft4 && (node.value? "exclusiveMinimum").any Json.isTrue then
    limitCheck given (fun v limit => limit.isLess v) Wording.notAboveMinimum
  else limitCheck given (fun v limit => !v.isLess limit) Wording.belowMinimum

/-- An upper limit, which in draft 4 a flag beside it may make exclusive. -/
def maximumCheck (edition : Edition) (node : Node) (given : Json) : Check :=
  if edition = .draft4 && (node.value? "exclusiveMaximum").any Json.isTrue then
    limitCheck given (fun v limit => v.isLess limit) Wording.notBelowMaximum
  else limitCheck given (fun v limit => !limit.isLess v) Wording.aboveMaximum

/-- The types that a value may have. -/
def typeCheck (edition : Edition) (given : Json) : Check :=
  let types := (SchemaType.listOf given).map SchemaType.name
  let listed := SchemaType.names.filter types.contains
  Check.that (fun value => types.any fun t => isOfType edition t value) (Wording.notOfType · listed)

/-- The names that an object has to have. -/
def requiredCheck (given : Json) : Check := fun value path =>
  match value, given with
  | .obj members, .arr names =>
    ((names.filterMap Json.string?).filter fun name => !Dict.has members name).map fun name =>
      ⟨path, Wording.missing name⟩
  | _, _ => []

/-- What has to be true of an object once it has a member. -/
def dependencyCheck (part : Part) : Check := fun value path =>
  match value, part.value with
  | .obj members, .obj dependencies =>
    dependencies.flatMap fun (name, dependency) =>
      if Dict.has members name then
        match dependency with
        | .arr names => requiredCheck (.arr names) value path
        | _ => (((Dict.get? part.members name)).getD Check.pass) value path
      else []
  | _, _ => []

/-- The declared members, in the order of the schema. -/
def propertiesCheck (part : Part) : Check := fun value path =>
  match value with
  | .obj members =>
    part.members.flatMap fun (name, c) =>
      match Dict.get? members name with
      | some member => c member (Pointer.child path name)
      | none => []
  | _ => []

/-- The members whose names fit patterns, pattern by pattern. -/
def patternsCheck (patterns : List (Pattern × Check)) : Check := fun value path =>
  match value with
  | .obj members =>
    patterns.flatMap fun (p, c) =>
      (members.filter fun (name, _) => p.isMatch name).flatMap fun (name, member) =>
        c member (Pointer.child path name)
  | _ => []

/-- The members that are not declared, where a schema rules them.  The declared ones are checked with them
in the order of the object. -/
def extraCheck (node : Node) (part : Part) : Check := fun value path =>
  match value with
  | .obj members =>
    let declared := node.members "properties"
    let patterns := node.patterns
    let isFalse := !part.value.isObj
    if isFalse && !Dict.has node "properties" && !Dict.has node "patternProperties" then
      match members with
      | (_, member) :: _ => [⟨path, Wording.nothingAllowed member⟩]
      | [] => []
    else
      let checksOf (name : String) : List Check :=
        (Dict.get? declared name).toList ++
          ((patterns.filter fun (p, _) => p.isMatch name).map (·.2))
      let failures := members.flatMap fun (name, member) =>
        let checks := checksOf name
        let checks := if checks.isEmpty && !isFalse then [part.schema] else checks
        Check.all checks member (Pointer.child path name)
      let unexpected := (members.map (·.1)).filter fun name => (checksOf name).isEmpty
      if isFalse && !unexpected.isEmpty then
        failures ++ [⟨path, Wording.unexpected "properties" (unexpected.map fun name => "'" ++ name ++ "'")⟩]
      else failures
  | _ => []

/-- The names of members as values. -/
def namesCheck (part : Part) : Check := fun value path =>
  match value with
  | .obj members =>
    if part.value.isBool && !members.isEmpty && !part.value.isTrue then
      [⟨path, Wording.nothingAllowed value⟩]
    else members.flatMap fun (name, _) => (part.schema (.str name) path).map fun f => { f with path }
  | _ => []

/-- The items of an array, or those behind the ones that have schemas of their own. -/
def itemsCheck (edition : Edition) (node : Node) (part : Part) : Check :=
  match part.value with
  | .arr _ => if edition = .draft2020 then Check.pass else Check.ofTuple part.items
  | _ =>
    let start := if edition = .draft2020 then ((Dict.get? node "prefixItems").map (·.items.length)).getD 0 else 0
    Check.ofItems start part.schema

/-- The items behind those of a tuple. -/
def additionalItemsCheck (node : Node) (part : Part) : Check :=
  match node.value? "items" with
  | some (.arr slots) =>
    if part.value.isBool && !part.value.isTrue then fun value path =>
      match value with
      | .arr items =>
        let extra := items.drop slots.length
        if extra.isEmpty then []
        else [⟨path, Wording.unexpected "items" (extra.map Json.compact)⟩]
      | _ => []
    else Check.ofItems slots.length part.schema
  | _ => Check.pass

/-- How many items pass a schema. -/
def containsCheck (edition : Edition) (node : Node) (part : Part) : Check :=
  let count? (key : String) : Option Nat :=
    if edition.rank < 8 then none else (node.value? key).bind countOf?
  let least := (count? "minContains").getD 1
  let most := count? "maxContains"
  Check.that (fun
    | .arr items =>
      let n := (items.filter part.schema.passes).length
      least ≤ n && most.all (n ≤ ·)
    | _ => true) fun value => "None of " ++ value.compact ++ " are valid under the given schema"

/-- Exactly one of the schemas. -/
def oneOfCheck (part : Part) : Check := fun value path =>
  match (part.items.filter fun c => c.passes value).length with
  | 0 => [⟨path, Wording.fitsNone value "oneOf"⟩]
  | 1 => []
  | _ =>
    [⟨path, value.compact ++ " is valid under more than one of the schemas listed in the 'oneOf' keyword"⟩]

/-- One schema or another, by a third. -/
def conditionalCheck (node : Node) (part : Part) : Check := fun value path =>
  if part.schema.passes value then node.schemaAt "then" value path else node.schemaAt "else" value path

/-- The format of a text. -/
def formatCheck (given : Json) : Check :=
  match given with
  | .str name =>
    match Dict.get? FormatTable.standard name with
    | some test => Check.that (fun value => value.string?.all test.accepts) (Wording.notOfFormat · name)
    | none => Check.pass
  | _ => Check.pass

/-- The pattern of a text. -/
def patternCheck (given : Json) : Check :=
  match given with
  | .str source =>
    match pattern? source with
    | some p =>
      Check.that (fun value => value.string?.all p.isMatch) fun value =>
        value.compact ++ " does not match " ++ Wording.quoted source
    | none => Check.pass
  | _ => Check.pass

/-- The check of one keyword of a node; keywords that an edition does not have pass everything. -/
def keywordCheck (edition : Edition) (follow : String → Check) (node : Node) (key : String) (part : Part) :
    Check :=
  let given := part.value
  let since (rank : Nat) (c : Check) : Check := if rank ≤ edition.rank then c else Check.pass
  let upTo (rank : Nat) (c : Check) : Check := if edition.rank ≤ rank then c else Check.pass
  match key with
  | "$ref" => (given.string?.map follow).getD Check.pass
  | "type" => typeCheck edition given
  | "enum" =>
    match given with
    | .arr values => Check.that (fun v => values.any (Json.sameValue v)) (Wording.notListed · values)
    | _ => Check.pass
  | "const" => since 6 (Check.that (Json.sameValue given) fun _ => given.compact ++ " was expected")
  | "minimum" => minimumCheck edition node given
  | "maximum" => maximumCheck edition node given
  | "exclusiveMinimum" =>
    since 6 (limitCheck given (fun v limit => limit.isLess v) Wording.notAboveMinimum)
  | "exclusiveMaximum" =>
    since 6 (limitCheck given (fun v limit => v.isLess limit) Wording.notBelowMaximum)
  | "multipleOf" =>
    limitCheck given isMultiple fun v d => v.compact ++ " is not a multiple of " ++ d.compact
  | "minLength" => sizeCheck textLength? true " is shorter than " "character" "characters" given
  | "maxLength" => sizeCheck textLength? false " is longer than " "character" "characters" given
  | "minItems" => sizeCheck itemCount? true " has less than " "item" "items" given
  | "maxItems" => sizeCheck itemCount? false " has more than " "item" "items" given
  | "minProperties" => sizeCheck memberCount? true " has less than " "property" "properties" given
  | "maxProperties" => sizeCheck memberCount? false " has more than " "property" "properties" given
  | "pattern" => patternCheck given
  | "format" => if edition.assertsFormats then formatCheck given else Check.pass
  | "uniqueItems" =>
    if given.isTrue then Check.that (fun v => v.items?.all Json.allDistinct) Wording.repeatedItems
    else Check.pass
  | "required" => requiredCheck given
  | "dependencies" => upTo 7 (dependencyCheck part)
  | "dependentRequired" => since 8 (dependencyCheck part)
  | "dependentSchemas" => since 8 (dependencyCheck part)
  | "properties" => if node.rulesExtra then Check.pass else propertiesCheck part
  | "patternProperties" => if node.rulesExtra then Check.pass else patternsCheck node.patterns
  | "additionalProperties" => if node.rulesExtra then extraCheck node part else Check.pass
  | "propertyNames" => since 6 (namesCheck part)
  | "items" => itemsCheck edition node part
  | "prefixItems" => since 9 (Check.ofTuple part.items)
  | "additionalItems" => upTo 8 (additionalItemsCheck node part)
  | "contains" => since 6 (containsCheck edition node part)
  | "allOf" => Check.all part.items
  | "anyOf" =>
    Check.that (fun v => part.items.any fun c => c.passes v) (Wording.fitsNone · "anyOf")
  | "oneOf" => oneOfCheck part
  | "not" =>
    Check.that (fun v => !part.schema.passes v) fun v => given.compact ++ " is not allowed for " ++ v.compact
  | "if" => since 7 (conditionalCheck node part)
  | _ => Check.pass

/-- The check of a node: all its keywords in their order, or only a reference where that stands alone. -/
def nodeCheck (edition : Edition) (follow : String → Check) (node : Node) : Check := fun value path =>
  match (node.value? "$ref").bind Json.string? with
  | some ref =>
    if edition.readsBesideReference then all value path else follow ref value path
  | none => all value path
where
  /-- What all keywords report. -/
  all : Check := fun value path =>
    List.flatMap (fun (key, part) => keywordCheck edition follow node key part value path) node

/-- The schema that references inside a node start from: the node itself if it has an identifier of its
own. -/
def baseOf (edition : Edition) (base : Json) (node : Dict Json) : Json :=
  match (node.get? edition.idKeyword).bind Json.string? with
  | some id => if id.toList.head? = some '#' then base else .obj node
  | none => base

section Schema

variable (edition : Edition) (follow : (base : Json) → (ref : String) → Check)

mutual
/-- The check of a schema. -/
def schemaCheck (base : Json) : Json → Check
  | .bool b => if b then Check.pass else Check.never
  | .obj members =>
    let base := baseOf edition base members
    nodeCheck edition (follow base) (partsOf base members)
  | _ => Check.pass

/-- The keywords of a node. -/
def partsOf (base : Json) : List (String × Json) → Node
  | [] => []
  | (key, value) :: rest =>
    (key, {
      value
      schema := schemaCheck base value
      items := match value with
        | .arr items => itemChecks base items
        | _ => []
      members := match value with
        | .obj members => memberChecks base members
        | _ => [] }) :: partsOf base rest

/-- The checks of schemas in a list. -/
def itemChecks (base : Json) : List Json → List Check
  | [] => []
  | schema :: rest => schemaCheck base schema :: itemChecks base rest

/-- The checks of schemas under names. -/
def memberChecks (base : Json) : List (String × Json) → Dict Check
  | [] => []
  | (name, schema) :: rest => (name, schemaCheck base schema) :: memberChecks base rest
end

end Schema

end Conformance

end FormModel
