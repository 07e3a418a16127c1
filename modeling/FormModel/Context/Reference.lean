import FormModel.Context
import FormModel.Pointer.Lookup
import FormModel.Pointer.SchemaLocation

/-!
References of a schema taken away.  A local reference is replaced by the schema it leads to, unless that
is around the place already: then it becomes a reference to where that schema has been placed, and the
place is noted as a repetition.  The definitions, which nothing refers to any more, are dropped.
-/

namespace FormModel

namespace Reference

/-- The location that a local reference leads to. -/
def target? (ref : String) : Option String :=
  if ref.toList.head? = some '#' then (Pointer.parse? ref).map Pointer.compile else none

/-- A schema around the one at hand: where it stands in the schema as given, and where it is placed. -/
structure Enclosing where
  source : String
  location : String
  deriving DecidableEq, Repr

/-- The location where an enclosing schema has been placed, the outermost if there are several. -/
def placed? (around : List Enclosing) (source : String) : Option String :=
  (around.find? (·.source == source)).map (·.location)

/-- The reference in the members of an object. -/
def text? (members : Dict Json) : Option String := (members.get? "$ref").bind Json.string?

/-- Whether a keyword holds a value rather than schemas. -/
def isVerbatim (key : String) : Bool := ["enum", "const", "default", "examples"].contains key

/-- Whether a keyword holds definitions. -/
def isDefinitions (key : String) : Bool := key == "definitions" || key == "$defs"

/-- The schema that a reference leads to, with the members that stand beside the reference.  A value that
is no object has no place for them. -/
def referred (root : Json) (target : String) (members : Dict Json) : Json :=
  let beside := Dict.erase members "$ref"
  match root.at? target with
  | some (.obj schema) => .obj (Dict.extend schema beside)
  | some other => other
  | none => .obj (Dict.ofList beside)

/-- References noted on the way; `none` if there were more levels of references than allowed. -/
abbrev Inliner := StateT RecursionMap Option

section Inline

variable (root : Json) (expand : (schema : Json) → (source location : String) → List Enclosing → Inliner Json)

/-- What stands in place of a reference. -/
def inlineReference (ref : String) (members : Dict Json) (location : String) (around : List Enclosing) :
    Inliner Json :=
  match target? ref with
  | none => return .obj members
  | some target =>
    match placed? around target with
    | some ancestor => do
      modify (Dict.insert · location ancestor)
      return .obj [("$ref", .str ("#" ++ ancestor))]
    | none =>
      match referred root target members with
      | .obj merged => expand (.obj merged) target location (around ++ [⟨target, location⟩])
      | other => return other

mutual
/-- A schema without its references, and without those inside. -/
def inlineNode : (node : Json) → (source location : String) → List Enclosing → Inliner Json
  | .obj members, source, location, around =>
    match text? members with
    | some ref => inlineReference root expand ref members location around
    | none => do
      let members ← inlineMembers members source location (around ++ [⟨source, location⟩])
      return .obj members
  | .arr items, source, location, around => return .arr (← inlineItems 0 items source location around)
  | scalar, _, _, _ => return scalar

/-- The members of a schema without references. -/
def inlineMembers : (members : List (String × Json)) → (source location : String) → List Enclosing →
    Inliner (List (String × Json))
  | [], _, _, _ => return []
  | (key, value) :: rest, source, location, around =>
    if isDefinitions key then inlineMembers rest source location around
    else do
      let value ←
        if isVerbatim key then pure value
        else inlineNode value (Pointer.child source key) (Pointer.child location key) around
      return (key, value) :: (← inlineMembers rest source location around)

/-- The items of an array, from a position on, without references. -/
def inlineItems (i : Nat) : (items : List Json) → (source location : String) → List Enclosing →
    Inliner (List Json)
  | [], _, _, _ => return []
  | item :: rest, source, location, around => do
    let item ← inlineNode item (source ++ "/" ++ toString i) (location ++ "/" ++ toString i) around
    return item :: (← inlineItems (i + 1) rest source location around)
end

end Inline

/-- A schema without its references, if no more than `levels` references are followed inside each other. -/
def inline (root : Json) : (levels : Nat) → (node : Json) → (source location : String) →
    List Enclosing → Inliner Json
  | 0, _, _, _, _ => fun _ => none
  | levels + 1, node, source, location, around =>
    inlineNode root (inline root levels) node source location around

/-- Enough levels for all references of a schema, each of which is followed at most once on a way down. -/
def enoughLevels (schema : Json) : Nat := schema.size + 2

section Record

variable (root : Json)

/-- Notes the data location that repeats another one, where a reference is left in the schema. -/
def recordReference (ref location : String) (c : Context) : Context :=
  let target := (Pointer.parse? ref).map Pointer.compile
  match target, Pointer.dataLocation? root location, target.bind (Pointer.dataLocation? root) with
  | some _, some source, some target => { c with dataRefs := Dict.insert c.dataRefs source target }
  | _, _, _ => c

/-- Notes the data location of an array. -/
def recordArray (members : Dict Json) (location : String) (c : Context) : Context :=
  if members.has "items" || members.has "additionalItems" then
    match Pointer.dataLocation? root location with
    | some dataPointer =>
      let slots := (((members.get? "items").bind Json.items?).map List.length).getD 0
      { c with arrays := Dict.insertNew c.arrays dataPointer slots }
    | none => c
  else c

/-- The keywords under which recorded schemas stand, in the order in which they are gone through. -/
def recordedKeywords : List String :=
  ["properties", "items", "additionalItems", "allOf", "anyOf", "oneOf", "not", "if", "then", "else"]

/-- Whether a keyword holds a list of schemas and nothing else. -/
def holdsList (key : String) : Bool := key == "allOf" || key == "anyOf" || key == "oneOf"

mutual
/-- Notes the arrays and repetitions in a schema. -/
def recordNode : (node : Json) → (location : String) → Context → Context
  | .obj members, location, c =>
    match text? members with
    | some ref => recordReference root ref location c
    | none =>
      recordedKeywords.foldl (fun c key => recordKeyword key members location c)
        (recordArray root members location c)
  | _, _, c => c

/-- Notes what stands under one keyword, the first of its name in the members. -/
def recordKeyword (keyword : String) : (members : List (String × Json)) → (location : String) →
    Context → Context
  | [], _, c => c
  | (key, value) :: rest, location, c =>
    if key = keyword then
      match value with
      | .obj members =>
        if key = "properties" then recordProperties members (location ++ "/" ++ key) c
        else if holdsList key then c
        else recordNode (.obj members) (location ++ "/" ++ key) c
      | .arr items =>
        if key = "items" || holdsList key then recordItems 0 items (location ++ "/" ++ key) c else c
      | _ => c
    else recordKeyword keyword rest location c

/-- Notes what stands in schemas under names. -/
def recordProperties : (members : List (String × Json)) → (location : String) → Context → Context
  | [], _, c => c
  | (name, schema) :: rest, location, c =>
    recordProperties rest location (recordNode schema (Pointer.child location name) c)

/-- Notes what stands in a list of schemas, from a position on. -/
def recordItems (i : Nat) : (items : List Json) → (location : String) → Context → Context
  | [], _, c => c
  | schema :: rest, location, c =>
    recordItems (i + 1) rest location (recordNode schema (location ++ "/" ++ toString i) c)
end

end Record

end Reference

/-- A schema without references, and what has been learnt from it; `none` if there is no end of
references. -/
def Context.resolve? (c : Context) (schema : Json) : Option (Json × Context) := do
  let (compiled, schemaRefs) ←
    (Reference.inline schema (Reference.enoughLevels schema) schema "" "" []).run c.schemaRefs
  return (compiled, Reference.recordNode compiled compiled "" { c with schemaRefs })

end FormModel
