import FormModel.Conformance.Check
import FormModel.Draft.Normalize
import FormModel.Pointer.Traversal

/-!
Whether a whole document conforms to a schema.  First the schema itself has to be sound: in the form of
its edition, with patterns that can be read and references that lead somewhere.  Then all that is wrong
with the document is listed.
-/

namespace FormModel

/-- Why a document does not conform. -/
inductive ConformanceError where
  /-- The schema cannot be used. -/
  | invalidSchema (reason : String)
  /-- The document has failures, at least one. -/
  | invalid (failures : List Failure)
  deriving DecidableEq, Repr

namespace ConformanceError

/-- The text of the error. -/
def message : ConformanceError → String
  | invalidSchema reason => "invalid schema: " ++ reason
  | invalid failures => "validation failed with " ++ toString failures.length ++ " error(s)"

/-- The exit code for the error. -/
def exitCode : ConformanceError → Nat
  | invalidSchema _ => 2
  | invalid _ => 1

end ConformanceError

namespace Conformance

/-- The value under a token: a member by its name, or an item by its position. -/
def childAt? (value : Json) (token : String) : Option Json :=
  match value with
  | .obj members => Dict.get? members token
  | .arr items => (Pointer.index? token).bind fun i => items[i]?
  | _ => none

/-- The value at the end of tokens. -/
def valueAt? (value : Json) (tokens : Tokens) : Option Json :=
  tokens.foldl (fun v token => v.bind (childAt? · token)) (some value)

/-- Whether a node has a name that references can use. -/
def isNamed (edition : Edition) (name : String) (node : Json) : Bool :=
  let bears (key text : String) : Bool := (node.member? key).bind Json.string? == some text
  if 8 ≤ edition.rank then bears "$anchor" name else bears edition.idKeyword ("#" ++ name)

/-- The schema that a reference leads to from a base. -/
def target? (edition : Edition) (base : Json) (ref : String) : Option Json :=
  match ref.toList with
  | '#' :: rest =>
    match (Percent.decode (String.ofList rest)).toList with
    | [] => some base
    | '/' :: path =>
      valueAt? base ((Pointer.splitSlashes path).map fun part =>
        String.ofList (Pointer.unescapeChars part))
    | name => ((base.nodes false).map (·.2)).find? (isNamed edition (String.ofList name))
  | _ => none

/-- The schemas that stand under a keyword of some shape. -/
def schemasUnder (shape : Shape) (value : Json) : List Json :=
  let members := (value.members?.getD []).map (·.2)
  match shape, value with
  | .schema, _ => [value]
  | .openSchema, _ => [value]
  | .schemas, .arr items => items
  | .items, .arr items => items
  | .items, _ => [value]
  | .named, _ => members
  | .patterned, _ => members
  | .dependencies, _ => members
  | _, _ => []

/-- The schemas inside a node that are checked with it; definitions are not, unless something refers to
them. -/
def innerSchemas (edition : Edition) (node : Dict Json) : List Json :=
  edition.keywords.flatMap fun (key, shape) =>
    if key = "definitions" || key = "$defs" then []
    else ((node.get? key).map (schemasUnder shape)).getD []

/-- The patterns in a node. -/
def patternsIn (node : Dict Json) : List String :=
  ((node.get? "pattern").bind Json.string?).toList ++
    (((node.get? "patternProperties").bind Json.members?).map Dict.keys).getD []

/-- The first thing that keeps a schema from being used, however well formed: a pattern that cannot be
read, or a reference that leads nowhere.  A reference that has been followed is not followed again. -/
def useFault? (edition : Edition) : (levels : Nat) → (followed : List String) → (base schema : Json) →
    Option String
  | 0, _, _, _ => none
  | levels + 1, followed, base, .obj node =>
    let base := baseOf edition base node
    let ref := (Dict.get? node "$ref").bind Json.string?
    let referenceFault := ref.bind fun ref =>
      if followed.contains ref then none
      else
        match target? edition base ref with
        | some schema => useFault? edition levels (ref :: followed) base schema
        | none => some ("Pointer '" ++ ref ++ "' does not exist")
    if ref.isSome && !edition.readsBesideReference then referenceFault
    else
      referenceFault <|>
        ((patternsIn node).findSome? fun source =>
          if (pattern? source).isSome then none
          else some (Wording.notOfFormat (.str source) "regex")) <|>
        (innerSchemas edition node).findSome? (useFault? edition levels followed base)
  | _, _, _, _ => none

/-- The check of a schema whose references are followed up to a number of levels. -/
def checkWithin (edition : Edition) : (levels : Nat) → (base schema : Json) → Check
  | 0, _, _ => Check.pass
  | levels + 1, base, schema =>
    schemaCheck edition
      (fun base ref value path =>
        match target? edition base ref with
        | some schema => checkWithin edition levels base schema value path
        | none => [])
      base schema

/-- Enough levels of references for a value: between two steps into the value, no schema comes twice. -/
def enoughLevels (schema value : Json) : Nat := (schema.size + 1) * (value.size + 1)

/-- Whether a value conforms to a schema. -/
def conform (schema value : Json) : Except ConformanceError Unit :=
  match Edition.ofSchema? schema with
  | none => .error (.invalidSchema "Unknown specification")
  | some edition =>
    match (schemaFault? edition schema) <|>
        (useFault? edition (enoughLevels schema schema) [] schema schema) with
    | some reason => .error (.invalidSchema reason)
    | none =>
      match checkWithin edition (enoughLevels schema value) schema schema value "" with
      | [] => .ok ()
      | failures => .error (.invalid failures)

/-- Whether a value conforms to a schema of any draft. -/
def conformToAny (schema value : Json) : Except ConformanceError Unit :=
  conform (Draft.normalize schema) value

end Conformance

end FormModel
