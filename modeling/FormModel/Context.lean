import FormModel.Pointer.Generic
import FormModel.Template.Written

/-!
What is learnt about a form while its controls are built.  Everything is kept under generic pointers to
data, so that it is found for all items of a list and all repetitions of a structure.  The first value
learnt for a place stays.
-/

namespace FormModel

/-- The kinds of places in a form. -/
inductive ControlKind where
  | group
  | list
  /-- A place that repeats an enclosing one. -/
  | reference
  | leaf
  deriving DecidableEq, Repr

/-- The name of a kind. -/
def ControlKind.name : ControlKind → String
  | group => "group"
  | list => "list"
  | reference => "$ref"
  | leaf => "leaf"

/-- What has been learnt about one place. -/
structure NodeOptions where
  schemaPointer : Option String
  /-- The value of `type`, or the type that other keywords imply. -/
  schemaType : Option Json
  schemaFormat : Option String
  templatePointer : Option String
  templateType : Option ControlKind
  /-- The number of slots with a schema of their own. -/
  tupleItems : Option Nat
  /-- The number of further items a list starts with. -/
  listItems : Option Nat
  minItems : Option Nat
  maxItems : Option Nat
  disabled : Bool
  /-- The names of the members that have to be present. -/
  required : List String
  deriving Inhabited

namespace NodeOptions

/-- Nothing has been learnt. -/
def empty : NodeOptions := ⟨none, none, none, none, none, none, none, none, none, false, []⟩

/-- The type of a place as one name: the first in a list that is not `null`. -/
def primaryType? (o : NodeOptions) : Option String :=
  match o.schemaType with
  | some (.str t) => some t
  | some (.arr types) =>
    let names := types.filterMap Json.string?
    (names.find? (· != "null")) <|> names.head?
  | _ => none

/-- The JSON form, with only what has been learnt. -/
def toJson (o : NodeOptions) : Json :=
  let text (key : String) (value : Option String) : List (String × Json) :=
    (value.map fun s => (key, Json.str s)).toList
  let count (key : String) (value : Option Nat) : List (String × Json) :=
    (value.map fun n => (key, Json.ofNat n)).toList
  .obj (text "schemaPointer" o.schemaPointer ++ (o.schemaType.map fun t => ("schemaType", t)).toList ++
    text "schemaFormat" o.schemaFormat ++ text "templatePointer" o.templatePointer ++
    text "templateType" (o.templateType.map ControlKind.name) ++ count "tupleItems" o.tupleItems ++
    count "listItems" o.listItems ++ count "minItems" o.minItems ++ count "maxItems" o.maxItems ++
    (if o.disabled then [("disabled", .bool true)] else []) ++
    (if o.required.isEmpty then [] else [("required", .arr (o.required.map .str))]))

end NodeOptions

/-- A place in the library of repeated structures. -/
inductive LibraryEntry where
  /-- Its control is being built; whoever comes here again has gone round a cycle. -/
  | building
  | ready (template : Template)

/-- The JSON form of an entry. -/
def LibraryEntry.toJson : LibraryEntry → Json
  | building => .null
  | ready t => t.toJson

/-- What has been learnt about a form. -/
structure Context where
  /-- What is known of places, by generic pointers. -/
  options : Dict NodeOptions
  /-- The controls of repeated structures and list items, by generic pointers. -/
  library : Dict LibraryEntry
  /-- Places in the schema that repeat an enclosing place of the schema. -/
  schemaRefs : RecursionMap
  /-- The same, of the data. -/
  dataRefs : RecursionMap
  arrays : ArrayMap
  deriving Inhabited

namespace Context

/-- Nothing has been learnt. -/
def empty : Context := ⟨[], [], [], [], []⟩

/-- The generic form of a pointer to data. -/
def generic (c : Context) (dataPointer : String) : String :=
  (Pointer.fold? c.dataRefs c.arrays dataPointer).getD dataPointer

/-- What is known of the place with a generic pointer. -/
def optionsAt (c : Context) (generic : String) : NodeOptions :=
  (Dict.get? c.options generic).getD .empty

/-- The context with something learnt about a place. -/
def learn (c : Context) (generic : String) (f : NodeOptions → NodeOptions) : Context :=
  { c with options := Dict.insert c.options generic (f (c.optionsAt generic)) }

/-- The finished control in the library under a generic pointer. -/
def libraryCopy? (c : Context) (key : String) : Option Template :=
  match Dict.get? c.library key with
  | some (.ready t) => some t
  | _ => none

/-- The context with an entry in the library. -/
def setEntry (c : Context) (key : String) (entry : LibraryEntry) : Context :=
  { c with library := Dict.insert c.library key entry }

/-- The context without an entry in the library. -/
def dropEntry (c : Context) (key : String) : Context :=
  { c with library := Dict.erase c.library key }

/-- The JSON form of all options. -/
def optionsToJson (c : Context) : Json := .obj (Dict.mapValues NodeOptions.toJson c.options)

/-- The JSON form of the library. -/
def libraryToJson (c : Context) : Json := .obj (Dict.mapValues LibraryEntry.toJson c.library)

end Context

end FormModel
