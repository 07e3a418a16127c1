import FormModel.Draft

/-!
How keywords of drafts 1 to 4 are said in draft 6, one schema node at a time.  Each step takes the
node with what is known so far and gives it back converted; the schemas inside the node are left alone.
-/

namespace FormModel.Draft

/-- A schema node on its way to draft 6. -/
structure Conversion where
  node : Dict Json
  state : DraftState

namespace Conversion

/-- The node written anew. -/
def withNode (r : Conversion) (node : Dict Json) : Conversion := { r with node }

/-- Marks the node as changed. -/
def touch (r : Conversion) : Conversion := { r with state := r.state.touch }

/-- Takes a draft as the one meant, unless it is known. -/
def assume (r : Conversion) (n : Nat) : Conversion := { r with state := r.state.assume n }

/-- The value of a keyword. -/
def get? (r : Conversion) (key : String) : Option Json := Dict.get? r.node key

/-- Whether a keyword has a value other than `null`, `false`, zero and the empty string. -/
def isSet (r : Conversion) (key : String) : Bool := (r.get? key).any Json.isTruthy

/-- The node without a keyword. -/
def drop (r : Conversion) (key : String) : Conversion := r.withNode (Dict.erase r.node key)

/-- The node with a keyword. -/
def put (r : Conversion) (key : String) (value : Json) : Conversion := r.withNode (Dict.insert r.node key value)

/-- Reads the draft off `$schema`. -/
def readDraft (r : Conversion) : Conversion :=
  match ((r.get? "$schema").bind Json.string?).bind ofUri? with
  | some draft => { r with state := { r.state with draft } }
  | none => r

/-- `contentEncoding` becomes an entry of `media`. -/
def contentEncoding (r : Conversion) : Conversion :=
  if r.isSet "contentEncoding" then
    match r.get? "contentEncoding" with
    | some encoding =>
      ((r.drop "contentEncoding").put "media" (.obj [("binaryEncoding", encoding)])).touch
    | none => r
  else r

/-- The members of the schema that an entry of `type` or `disallow` stands for. -/
def entryMembers : Json → Dict Json
  | .obj members => members
  | name => [("type", name)]

/-- `disallow` becomes `not`. -/
def disallow (r : Conversion) : Conversion :=
  if r.isSet "disallow" then
    let dropped := (r.drop "disallow").touch
    match r.get? "disallow" with
    | some (.str t) => dropped.put "not" (.obj [("type", .str t)])
    | some (.arr types) => dropped.put "not" (.obj [("anyOf", .arr (types.map fun t => .obj (entryMembers t)))])
    | _ => dropped
  else r

/-- A single name as a list of names. -/
def nameList (v : Json) : Json := if v.isStr then .arr [v] else v

/-- A dependency on one name becomes one on a list of one name. -/
def dependencyNames (r : Conversion) : Conversion :=
  match r.get? "dependencies" with
  | some (.obj deps) =>
    if deps.any fun (_, v) => v.isStr then
      (r.put "dependencies" (.obj (Dict.mapValues nameList deps))).touch
    else r
  | _ => r

/-- A number of decimal places becomes the divisor that allows as many.  It is a keyword of draft 1. -/
def maxDecimal (r : Conversion) : Conversion :=
  match (r.get? "maxDecimal").bind Json.float? with
  | some places =>
    let r := r.put "multipleOf" (.ofFloat (1 / Float.pow 10 places))
    let r := ((r.drop "maxDecimal").drop "divisibleBy").touch
    if r.state.draft = none ∨ r.state.draft = some 2 then { r with state := { r.state with draft := some 1 } }
    else r
  | none => r

/-- `divisibleBy` becomes `multipleOf`. -/
def divisibleBy (r : Conversion) : Conversion :=
  match r.get? "divisibleBy" with
  | some divisor => ((r.drop "divisibleBy").put "multipleOf" divisor).touch
  | none => r

/-- A limit that is a number is moved to its exclusive form. -/
def makeExclusive (r : Conversion) (limit exclusive : String) : Conversion :=
  match r.get? limit with
  | some value => (r.drop limit).put exclusive value
  | none => r

/-- Whether a keyword has a number. -/
def hasNumber (r : Conversion) (key : String) : Bool := (r.get? key).any Json.isNum

/-- Whether a keyword has a flag. -/
def hasFlag (r : Conversion) (key : String) : Bool := (r.get? key).any Json.isBool

/-- Whether a keyword has a given flag. -/
def hasFlagOf (r : Conversion) (key : String) (value : Bool) : Bool :=
  (r.get? key).any fun v => v.bool? == some value

/-- The flag that a limit may be reached, of drafts 1 and 2. -/
def canEqual (limit canEqual exclusive : String) (r : Conversion) : Conversion :=
  if r.hasNumber limit && r.hasFlagOf canEqual false then
    (((r.makeExclusive limit exclusive).drop canEqual).touch).assume 2
  else if r.hasFlag canEqual then ((r.drop canEqual).touch).assume 2
  else r

/-- The flag that a limit may not be reached, of drafts 3 and 4. -/
def exclusiveFlag (limit exclusive : String) (r : Conversion) : Conversion :=
  if r.hasNumber limit && r.hasFlagOf exclusive true then (r.makeExclusive limit exclusive).touch
  else if r.hasFlag exclusive then (r.drop exclusive).touch
  else r

/-- Flags beside a limit become an exclusive limit. -/
def convertLimit (limit flag exclusive : String) (r : Conversion) : Conversion :=
  exclusiveFlag limit exclusive (canEqual limit flag exclusive r)

/-- Both limits of a number. -/
def limits (r : Conversion) : Conversion :=
  convertLimit "maximum" "maximumCanEqual" "exclusiveMaximum"
    (convertLimit "minimum" "minimumCanEqual" "exclusiveMinimum" r)

/-- Whether a property has a flag that is `true`. -/
def marks (name : String) (property : Json) : Bool := (property.member? name).any Json.isTrue

/-- A name added to a list of names, once. -/
def addName (names : List String) (name : String) : List String :=
  if names.contains name then names else names ++ [name]

/-- The names of the properties that pass a test added to a list. -/
def addNames (test : Json → Bool) (properties : Dict Json) (names : List String) : List String :=
  properties.foldl (fun names (key, property) => if test property then addName names key else names) names

/-- The names under `required`. -/
def requiredNames (r : Conversion) : List String :=
  (((r.get? "required").bind Json.items?).getD []).filterMap Json.string?

/-- Whether the properties say which of them may be left out.  In drafts 1 and 2 they always do. -/
def saysOptional (properties : Dict Json) (r : Conversion) : Bool :=
  r.state.draft == some 1 || r.state.draft == some 2 || properties.any fun (_, p) => marks "optional" p

/-- Whether the properties say which of them may not be left out. -/
def saysRequired (properties : Dict Json) : Bool := properties.any fun (_, p) => marks "required" p

/-- The names of the required properties: those listed, all that are not optional if the properties say
which are, and those marked `required` themselves. -/
def namesRequired (properties : Dict Json) (r : Conversion) : List String :=
  let names := r.requiredNames
  let names :=
    if saysOptional properties r then addNames (fun p => !marks "optional" p) properties names else names
  if saysRequired properties then addNames (marks "required") properties names else names

/-- The required properties are listed in the schema around them. -/
def collectRequired (properties : Dict Json) (r : Conversion) : Conversion :=
  let names := namesRequired properties r
  let r := if saysOptional properties r then r.touch.assume 2 else r
  let r := if saysRequired properties then r.touch else r
  if names.isEmpty then r else r.put "required" (.arr (names.map .str))

/-- Dependencies with those that properties ask for under `requires`. -/
def addRequires (properties : Dict Json) (deps : Dict Json) : Dict Json :=
  properties.foldl (fun deps (key, property) =>
    match property.member? "requires" with
    | some (.str s) => Dict.insert deps key (.arr [.str s])
    | some other => if other.isTruthy then Dict.insert deps key other else deps
    | none => deps) deps

/-- What properties require becomes `dependencies` of the schema around them. -/
def collectRequires (properties : Dict Json) (r : Conversion) : Conversion :=
  if properties.any fun (_, p) => (p.member? "requires").any Json.isTruthy then
    let deps := ((r.get? "dependencies").bind Json.members?).getD []
    ((r.put "dependencies" (.obj (addRequires properties deps))).touch).assume 2
  else r

/-- What the properties say of themselves is said by the schema around them. -/
def properties (r : Conversion) : Conversion :=
  match r.get? "properties" with
  | some (.obj properties) => collectRequires properties (collectRequired properties r)
  | _ => r

/-- Drops the keywords that the schema around this one has taken over. -/
def flags (r : Conversion) : Conversion :=
  let r := if r.hasFlag "optional" then ((r.drop "optional").touch).assume 2 else r
  let r := if r.isSet "requires" then r.drop "requires" else r
  if r.hasFlag "required" then r.drop "required" else r

/-- The identifier carried over from an `id`. -/
def convertedId (id : String) : String :=
  let cs := id.toList
  String.ofList (if cs.getLast? = some '#' then cs.dropLast else cs) ++ convertedSuffix

/-- `id` becomes `$id`. -/
def identifier (r : Conversion) : Conversion :=
  if Dict.has r.node "$id" then r
  else
    match r.get? "id" with
    | some (.str id) => ((r.drop "id").put "$id" (.str (convertedId id))).touch
    | _ => r

/-- Whether a value is the name of a standard type. -/
def isStandardType (t : Json) : Bool := t.string?.any SchemaType.names.contains

/-- Whether `type` says something else than standard names. -/
def hasOddType (r : Conversion) : Bool :=
  match r.get? "type" with
  | none => false
  | some .null => false
  | some (.arr types) => !types.all isStandardType
  | some other => other.isTruthy && !isStandardType other

/-- `$schema` names draft 6 where it named an earlier one.  If it names something else and the schema has
been changed, it becomes a note in the description. -/
def schemaUri (r : Conversion) : Conversion :=
  match (r.get? "$schema").bind Json.string? with
  | none => r
  | some uri =>
    if isLegacyUri uri then (r.put "$schema" (.str uri6)).touch
    else if r.state.changed then
      let note := "Converted to draft 6 from " ++ uri
      let text := match (r.get? "description").bind Json.string? with
        | some existing => if existing.isEmpty then note else existing ++ "\n" ++ note
        | none => note
      (r.drop "$schema").put "description" (.str text)
    else r

/-- All standard types. -/
def allTypes : Json := .arr (SchemaType.names.map .str)

/-- The keywords for arrays. -/
def arrayKeys : List String :=
  ["additionalItems", "items", "maxItems", "minItems", "uniqueItems", "contains"]

/-- The keywords for numbers. -/
def numberKeys : List String :=
  ["multipleOf", "maximum", "exclusiveMaximum", "minimum", "exclusiveMinimum"]

/-- The keywords for objects. -/
def objectKeys : List String :=
  ["maxProperties", "minProperties", "required", "additionalProperties", "properties", "patternProperties",
    "dependencies", "propertyNames"]

/-- The keywords for strings. -/
def stringKeys : List String := ["maxLength", "minLength", "pattern", "format"]

/-- The keywords that say nothing about values of a type. -/
def foreignKeys (type : Option String) : List String :=
  match type with
  | some "array" => numberKeys ++ objectKeys ++ stringKeys
  | some "integer" => arrayKeys ++ objectKeys ++ stringKeys
  | some "number" => arrayKeys ++ objectKeys ++ stringKeys
  | some "object" => arrayKeys ++ numberKeys ++ stringKeys
  | some "string" => arrayKeys ++ numberKeys ++ objectKeys
  | _ => arrayKeys ++ numberKeys ++ objectKeys ++ stringKeys

/-- An alternative with a member of the schema around it, unless that is excluded or there already. -/
def takeOver (excluded : List String) (branch : Dict Json) (member : String × Json) : Dict Json :=
  if Dict.has branch member.1 || excluded.contains member.1 || member.1 == "type" || member.1 == "default" then branch
  else Dict.insert branch member.1 member.2

/-- The alternative for one entry of `type`, with the keywords of the schema around it that say something
about the type. -/
def typeBranch (parent : Dict Json) (entry : Json) : Json :=
  let branch := entryMembers entry
  let excluded := foreignKeys ((branch.get? "type").bind Json.string?)
  .obj (parent.foldl (takeOver excluded) branch)

/-- What `type` declares; a list of one entry declares the entry. -/
def declaredType (node : Dict Json) : Json :=
  match (node.get? "type").getD .null with
  | .arr [single] => single
  | other => other

/-- A node with other than standard types in `type`.  A list with schemas in it becomes alternatives, a
schema is merged into the node, and unknown names are dropped. -/
def convertTypes (node : Dict Json) : Dict Json :=
  match declaredType node with
  | .str t =>
    if t = "any" then node.insert "type" allTypes
    else if SchemaType.names.contains t then node.insert "type" (.str t)
    else node.erase "type"
  | .arr types =>
    if types.all Json.isStr then
      if types.any fun t => t.string? == some "any" then node.insert "type" allTypes
      else node.insert "type" (.arr (types.filter isStandardType))
    else
      let alternatives : Dict Json := [("anyOf", .arr (types.map (typeBranch node)))]
      match node.get? "default" with
      | some value => alternatives ++ [("default", value)]
      | none => alternatives
  | .obj schema => Dict.extend (node.erase "type") schema
  | _ => node.erase "type"

/-- `type` holds only standard names; the note on `$schema` is written before. -/
def types (r : Conversion) : Conversion :=
  if r.hasOddType then
    let r := r.touch.schemaUri
    r.withNode (convertTypes r.node)
  else r.schemaUri

/-- All steps before the schemas that the node extends are taken in. -/
def start (node : Dict Json) (state : DraftState) : Conversion := (readDraft ⟨node, state⟩).contentEncoding

/-- All steps after that. -/
def finish (r : Conversion) : Conversion :=
  r.disallow.dependencyNames.maxDecimal.divisibleBy.limits.properties.flags.identifier.types

/-- The schemas that the node extends, one or a list. -/
def extended? (r : Conversion) : Option (List Json) :=
  match r.get? "extends" with
  | some (.arr members) => some members
  | some (.obj schema) => some [.obj schema]
  | _ => none

/-- `extends` becomes `allOf` of the schemas, already converted. -/
def takeExtended (r : Conversion) (members : List Json) : Conversion :=
  ((r.drop "extends").put "allOf" (.arr members)).touch

end Conversion

end FormModel.Draft
