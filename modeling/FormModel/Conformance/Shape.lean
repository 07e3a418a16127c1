import FormModel.Conformance.Edition
import FormModel.Conformance.Failure
import FormModel.Json.Order
import FormModel.Pattern.Backtracking
import FormModel.Pattern.ExtendedReader
import FormModel.SchemaType
import FormModel.Text.UriReference

/-!
Which values the keywords of a schema may have, by edition.  A schema is well formed if each of its
keywords has a value of the shape that the edition asks for.
-/

namespace FormModel

/-- What a keyword holds. -/
inductive Shape where
  | any
  | text
  /-- A reference, and one without a fragment where `bare`. -/
  | reference (bare : Bool)
  | pattern
  | flag
  | number
  /-- A number above zero. -/
  | divisor
  | count
  | names
  /-- A list that is not empty. -/
  | names1
  | types
  | list
  /-- Different values, at least one. -/
  | values
  | schema
  /-- A schema or a flag. -/
  | openSchema
  | schemas
  /-- A schema, or schemas by position. -/
  | items
  /-- Schemas under names. -/
  | named
  /-- Schemas under patterns. -/
  | patterned
  /-- Schemas or lists of names, under names. -/
  | dependencies
  /-- Lists of names, under names. -/
  | nameLists
  deriving DecidableEq, Repr

namespace Shape

/-- Keywords for numbers, texts and sizes that all editions have. -/
def sizes : List (String × Shape) :=
  [("multipleOf", divisor), ("maximum", number), ("minimum", number), ("maxLength", count),
    ("minLength", count), ("pattern", pattern), ("maxItems", count), ("minItems", count),
    ("uniqueItems", flag), ("maxProperties", count), ("minProperties", count)]

/-- Combinations of schemas that all editions have. -/
def combinations : List (String × Shape) :=
  [("allOf", schemas), ("anyOf", schemas), ("oneOf", schemas), ("not", schema)]

/-- Notes for readers that all editions have. -/
def notes : List (String × Shape) := [("title", text), ("description", text), ("format", text)]

/-- Limits that are numbers, and what came with them. -/
def since6 : List (String × Shape) :=
  [("exclusiveMaximum", number), ("exclusiveMinimum", number), ("contains", schema),
    ("propertyNames", schema), ("examples", list)]

/-- The keywords of draft 4. -/
def keywords4 : List (String × Shape) :=
  [("id", text), ("$schema", text)] ++ notes ++ sizes ++
    [("exclusiveMaximum", flag), ("exclusiveMinimum", flag), ("additionalItems", openSchema),
      ("items", items), ("required", names1), ("additionalProperties", openSchema), ("definitions", named),
      ("properties", named), ("patternProperties", patterned), ("dependencies", dependencies),
      ("enum", values), ("type", types)] ++ combinations

/-- The keywords of draft 6. -/
def keywords6 : List (String × Shape) :=
  [("$id", reference false), ("$schema", text), ("$ref", reference false)] ++ notes ++ sizes ++ since6 ++
    [("additionalItems", schema), ("items", items), ("required", names), ("additionalProperties", schema),
      ("definitions", named), ("properties", named), ("patternProperties", patterned),
      ("dependencies", dependencies), ("enum", values), ("type", types)] ++ combinations

/-- What draft 7 adds. -/
def since7 : List (String × Shape) :=
  [("$comment", text), ("readOnly", flag), ("contentMediaType", text), ("contentEncoding", text),
    ("if", schema), ("then", schema), ("else", schema)]

/-- What the editions after draft 7 add. -/
def since2019 : List (String × Shape) :=
  [("$anchor", text), ("$defs", named), ("minContains", count), ("maxContains", count),
    ("dependentRequired", nameLists), ("dependentSchemas", named), ("unevaluatedItems", schema),
    ("unevaluatedProperties", schema), ("deprecated", flag), ("writeOnly", flag), ("contentSchema", schema)]

/-- The keywords of the editions after draft 7, but for those that hold items. -/
def keywords2019 : List (String × Shape) :=
  [("$id", reference true), ("$schema", text), ("$ref", reference false)] ++ notes ++ sizes ++ since6 ++
    since7 ++ since2019 ++
    [("required", names), ("additionalProperties", schema), ("definitions", named), ("properties", named),
      ("patternProperties", patterned), ("dependencies", dependencies), ("enum", list), ("type", types)] ++
    combinations

end Shape

/-- The keywords of an edition, each with the shape of its value. -/
def Edition.keywords : Edition → List (String × Shape)
  | draft4 => Shape.keywords4
  | draft6 => Shape.keywords6
  | draft7 =>
    (Shape.keywords6.filter fun e => e.1 ≠ "enum") ++ Shape.since7 ++ [("enum", .list)]
  | draft2019 => Shape.keywords2019 ++ [("additionalItems", .schema), ("items", .items)]
  | draft2020 => Shape.keywords2019 ++ [("prefixItems", .schemas), ("items", .schema)]

namespace Conformance

/-- The text of a pattern with control characters in place of their escapes, such as `\cJ`. -/
def withControls : List Char → List Char
  | '\\' :: 'c' :: letter :: rest =>
    if letter.isAlpha then Char.ofNat (letter.toNat % 32) :: withControls rest
    else '\\' :: 'c' :: letter :: withControls rest
  | '\\' :: c :: rest => '\\' :: c :: withControls rest
  | c :: rest => c :: withControls rest
  | [] => []

/-- The pattern of a text as schemas write it: letters, digits and blanks are those of ASCII, but for patterns
that look around. -/
def pattern? (source : String) : Option Pattern :=
  let source := String.ofList (withControls source.toList)
  match Pattern.read source with
  | .ok _ => Pattern.parseExtended? true source
  | .error .lookAround => Pattern.parseExtended? false source
  | .error .other => none

/-- Whether a value is of a type of JSON Schema.  In draft 4 no float is an integer. -/
def isOfType (edition : Edition) (type : String) (value : Json) : Bool :=
  match value with
  | .num (.int _ _) => type == "integer" || type == "number"
  | .num (.float f _) => type == "number" || (type == "integer" && edition ≠ .draft4 && isWhole f)
  | other => other.kind == type

/-- The count that a value is. -/
def countOf? (value : Json) : Option Nat :=
  match value with
  | .num n => (n.whole?.filter (0 ≤ ·)).map Int.toNat
  | _ => none

/-- What is wrong with a value that has to be of a type. -/
def typeFault? (edition : Edition) (type : String) (value : Json) : Option String :=
  if isOfType edition type value then none else some (Wording.notOfType value [type])

/-- What is wrong with a list of names. -/
def namesFault? (edition : Edition) (value : Json) : Option String :=
  match value with
  | .arr names =>
    (names.findSome? (typeFault? edition "string")) <|>
      (if Json.allDistinct names then none else some (Wording.repeatedItems value))
  | _ => some (Wording.notOfType value ["array"])

/-- What is wrong with the value of `type`. -/
def typesFault? (value : Json) : Option String :=
  let isName (t : Json) : Bool := t.string?.any SchemaType.names.contains
  let isSound : Bool := match value with
    | .arr types => !types.isEmpty && types.all isName && Json.allDistinct types
    | other => isName other
  if isSound then none else some (Wording.fitsNone value "anyOf")

/-- What is wrong with a text that has to be of a format. -/
def formatFault? (edition : Edition) (format : String) (test : String → Bool) (value : Json) :
    Option String :=
  match value with
  | .str s => if test s then none else some (Wording.notOfFormat value format)
  | other => typeFault? edition "string" other

/-- What is wrong with a value of a shape in which there are no schemas. -/
def plainFault? (edition : Edition) (shape : Shape) (value : Json) : Option String :=
  match shape with
  | .text => typeFault? edition "string" value
  | .reference bare =>
    formatFault? edition "uri-reference"
      (fun s => UriReference.accepts s && !(bare && (s.toList.dropLast).contains '#')) value
  | .pattern => formatFault? edition "regex" (fun s => (pattern? s).isSome) value
  | .flag => typeFault? edition "boolean" value
  | .number => typeFault? edition "number" value
  | .divisor =>
    match value with
    | .num n =>
      if n.toFloat > 0 then none else some (Wording.notAboveMinimum value (.ofNat 0))
    | other => typeFault? edition "number" other
  | .count =>
    (typeFault? edition "integer" value) <|>
      (if (countOf? value).isSome then none else some (Wording.belowMinimum value (.ofNat 0)))
  | .names => namesFault? edition value
  | .names1 =>
    (namesFault? edition value) <|>
      (if value.isEmpty then some (Wording.fewItems value 1) else none)
  | .types => typesFault? value
  | .list => typeFault? edition "array" value
  | .values =>
    match value with
    | .arr items =>
      if items.isEmpty then some (Wording.fewItems value 1)
      else if Json.allDistinct items then none
      else some (Wording.repeatedItems value)
    | other => typeFault? edition "array" other
  | .nameLists =>
    match value with
    | .obj members => members.findSome? fun (_, v) => namesFault? edition v
    | other => typeFault? edition "object" other
  | _ => none

/-- What is wrong with the value of a keyword that has to be a schema and is neither object nor flag. -/
def schemaTypeFault (edition : Edition) (value : Json) : String :=
  Wording.notOfType value (if edition = .draft4 then ["object"] else ["boolean", "object"])

/-- A limit of draft 4 that has to stand beside a flag. -/
def flagFault? (edition : Edition) (node : Dict Json) : Option String :=
  let lacks (flag limit : String) : Bool := node.has flag && !node.has limit
  if edition ≠ .draft4 then none
  else if lacks "exclusiveMaximum" "maximum" then some (Wording.missing "maximum")
  else if lacks "exclusiveMinimum" "minimum" then some (Wording.missing "minimum")
  else none

mutual
/-- The first thing that is wrong with the form of a schema. -/
def schemaFault? (edition : Edition) : Json → Option String
  | .obj node =>
    (edition.keywords.findSome? fun (key, shape) => keywordFault? edition key shape node) <|>
      flagFault? edition node
  | .bool b => if edition = .draft4 then some (schemaTypeFault edition (.bool b)) else none
  | other => some (schemaTypeFault edition other)

/-- What is wrong with the value of a keyword, the first of its name in the members. -/
def keywordFault? (edition : Edition) (keyword : String) (shape : Shape) :
    List (String × Json) → Option String
  | [] => none
  | (key, value) :: rest =>
    if key = keyword then
      match shape with
      | .schema => schemaFault? edition value
      | .openSchema => if value.isBool then none else schemaFault? edition value
      | .schemas =>
        match value with
        | .arr items =>
          if items.isEmpty then some (Wording.fewItems value 1) else schemasFault? edition items
        | other => typeFault? edition "array" other
      | .items =>
        match value with
        | .arr items =>
          if items.isEmpty || (schemasFault? edition items).isSome then
            some (Wording.fitsNone value "anyOf")
          else none
        | other => (schemaFault? edition other).map fun _ => Wording.fitsNone value "anyOf"
      | .named =>
        match value with
        | .obj members => namedFault? edition members
        | other => typeFault? edition "object" other
      | .patterned =>
        match value with
        | .obj members =>
          (namedFault? edition members) <|> (members.findSome? fun (source, _) =>
            plainFault? edition .pattern (.str source))
        | other => typeFault? edition "object" other
      | .dependencies =>
        match value with
        | .obj members => dependenciesFault? edition members
        | other => typeFault? edition "object" other
      | plain => plainFault? edition plain value
    else keywordFault? edition keyword shape rest

/-- The first thing wrong with schemas in a list. -/
def schemasFault? (edition : Edition) : List Json → Option String
  | [] => none
  | schema :: rest =>
    match schemaFault? edition schema with
    | some fault => some fault
    | none => schemasFault? edition rest

/-- The first thing wrong with schemas under names. -/
def namedFault? (edition : Edition) : List (String × Json) → Option String
  | [] => none
  | (_, schema) :: rest =>
    match schemaFault? edition schema with
    | some fault => some fault
    | none => namedFault? edition rest

/-- The first thing wrong with dependencies: each is a schema or a list of names. -/
def dependenciesFault? (edition : Edition) : List (String × Json) → Option String
  | [] => none
  | (_, value) :: rest =>
    let isSound : Bool := match value with
      | .arr names =>
        (namesFault? edition value).isNone && !(edition = .draft4 && names.isEmpty)
      | other => (schemaFault? edition other).isNone
    if isSound then dependenciesFault? edition rest else some (Wording.fitsNone value "anyOf")
end

end Conformance

end FormModel
