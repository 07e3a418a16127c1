import FormModel.Json
import FormModel.Pointer

/-!
Pointers into data and pointers into the schema that governs it, turned into each other.
-/

namespace FormModel

namespace Pointer

/-- Whether the `type` of a schema is, or lists, a name. -/
def declaresType (schema : Dict Json) (name : String) : Bool :=
  match schema.get? "type" with
  | some (.str t) => t == name
  | some (.arr types) => types.any fun t => t.string? == some name
  | _ => false

/-- An object, or `true`: a schema that lets something through. -/
def isOpenSchema (schema : Json) : Bool := schema.isObj || schema.isTrue

/-- The part of an object schema for a member: its own, or the one for undeclared members. -/
def memberStep (schema : Dict Json) (key : String) : Option (String × Json) :=
  if declaresType schema "object" || schema.has "properties" || schema.has "additionalProperties" then
    match (schema.get? "properties").bind (·.member? key) with
    | some sub => some ("/properties/" ++ escape key, sub)
    | none =>
      match schema.get? "additionalProperties" with
      | some sub => if isOpenSchema sub then some ("/additionalProperties", sub) else none
      | none => none
  else none

/-- The part of an array schema for an item.  A dash and the empty token stand for the first position. -/
def itemStep (schema : Dict Json) (key : String) : Option (String × Json) :=
  let isIndex := key == "-" || key.isEmpty || (index? key).isSome
  if (declaresType schema "array" || schema.has "items") && isIndex then
    let index := (index? key).getD 0
    let additional := (schema.get? "additionalItems").filter isOpenSchema
    match schema.get? "items" with
    | some (.arr items) =>
      match items[index]? with
      | some sub => some ("/items/" ++ toString index, sub)
      | none => additional.map fun sub => ("/additionalItems", sub)
    | some (.obj members) => some ("/items", .obj members)
    | _ => (additional.filter Json.isObj).map fun sub => ("/additionalItems", sub)
  else none

/-- The part of a schema that governs the value under one token of the data. -/
def schemaStep (schema : Json) (key : String) : Option (String × Json) :=
  match schema with
  | .obj node =>
    match memberStep node key with
    | some step => some step
    | none => itemStep node key
  | _ => none

/-- The location in a schema that governs what data tokens lead to. -/
def schemaLocation? (schema : Json) : Tokens → Option String
  | [] => some ""
  | key :: rest =>
    match schemaStep schema key with
    | none => none
    | some (segment, sub) => (schemaLocation? sub rest).map (segment ++ ·)

/-- The item at a position that a token of digits names. -/
def itemAt? (j : Json) (token : String) : Option (Nat × Json) := do
  let i ← index? token
  let items ← j.items?
  let item ← items[i]?
  return (i, item)

/-- The data tokens that schema tokens describe.  Keywords under which the place of the data is not
certain describe none. -/
def dataTokens? (schema : Json) : Tokens → Option Tokens
  | [] => some []
  | "properties" :: rest =>
    match rest with
    | [] => none
    | name :: rest => do
      let sub ← (← schema.member? "properties").member? name
      return name :: (← dataTokens? sub rest)
  | "items" :: rest => do
    let items ← schema.member? "items"
    match items with
    | .arr _ =>
      match rest with
      | [] => none
      | token :: rest =>
        let (i, sub) ← itemAt? items token
        return toString i :: (← dataTokens? sub rest)
    | sub => return "-" :: (← dataTokens? sub rest)
  | "additionalItems" :: rest => do
    let sub ← schema.member? "additionalItems"
    return "-" :: (← dataTokens? sub rest)
  | keyword :: rest =>
    if keyword = "allOf" ∨ keyword = "anyOf" ∨ keyword = "oneOf" then
      match rest with
      | [] => none
      | token :: rest => do
        let (_, sub) ← itemAt? (← schema.member? keyword) token
        dataTokens? sub rest
    else if keyword = "not" ∨ keyword = "if" ∨ keyword = "then" ∨ keyword = "else" then do
      dataTokens? (← schema.member? keyword) rest
    else none

/-- The data location that a schema location describes. -/
def dataLocation? (schema : Json) (pointer : String) : Option String :=
  (parse? pointer).bind fun tokens => (dataTokens? schema tokens).map compile

end Pointer

namespace Address

/-- The location in `schema` that governs the data at this address. -/
def toSchemaPointer? (a : Address) (schema : Json) : Option String :=
  a.parse?.bind (Pointer.schemaLocation? schema)

/-- The location of the data that this address into `schema` describes. -/
def toDataPointer? (a : Address) (schema : Json) : Option String :=
  a.parse?.bind fun tokens => (Pointer.dataTokens? schema tokens).map Pointer.compile

end Address

end FormModel
