import FormModel.Rule.Keyword

/-!
From a schema to rules.  A control gets a bag of rules chosen by its type, which is kept as data and made
into one rule when it is needed; a whole schema node, with the schemas it combines, makes one rule too.
-/

namespace FormModel

/-- Names of rules with their parameters. -/
abbrev RuleBag := Dict (List Json)

namespace RuleBag

/-- One rule out of all entries; unknown names are passed over. -/
def rule? (bag : RuleBag) (formats : FormatTable) : Option Rule :=
  Rule.all? (bag.map fun (name, params) => (Keyword.ofName? name).bind fun k => k.rule? formats params)

/-- The bag with the named keywords of a schema node. -/
def copy (node : Dict Json) (bag : RuleBag) (keys : List String) : RuleBag :=
  keys.foldl (fun bag key =>
    match node.get? key with
    | some param => bag.insert key [param]
    | none => bag) bag

/-- A limit with the flag of whether it is strict. -/
def copyLimit (node : Dict Json) (limit exclusive : String) (bag : RuleBag) : RuleBag :=
  match node.get? limit with
  | some param => bag.insert limit [param, .bool ((node.get? exclusive).any Json.isTrue)]
  | none => bag

/-- The bag without a limit that is only a flag. -/
def dropFlag (bag : RuleBag) (exclusive : String) : RuleBag :=
  match bag.get? exclusive with
  | some (.bool _ :: _) => bag.erase exclusive
  | _ => bag

/-- The bag with the rules for one type. -/
def addType (node : Dict Json) (bag : RuleBag) : SchemaType → RuleBag
  | .string => copy node bag ["pattern", "format", "minLength", "maxLength"]
  | .number => addNumber bag
  | .integer => addNumber bag
  | .object => copy node bag ["minProperties", "maxProperties", "dependencies"]
  | .array => copy node bag ["minItems", "maxItems", "uniqueItems"]
  | .boolean => bag
  | .null => bag
where
  /-- The bag with the rules for numbers. -/
  addNumber (bag : RuleBag) : RuleBag :=
    let bag := copyLimit node "maximum" "exclusiveMaximum"
      (copyLimit node "minimum" "exclusiveMinimum" bag)
    let bag := copy node bag ["exclusiveMinimum", "exclusiveMaximum", "multipleOf", "type"]
    dropFlag (dropFlag bag "exclusiveMinimum") "exclusiveMaximum"

/-- The rules of the control for a schema node, by its types. -/
def ofControl (schema : Json) : RuleBag :=
  match schema with
  | .obj node =>
    let types := ((Dict.get? node "type").map SchemaType.listOf).getD []
    copy node (types.foldl (addType node) []) ["enum", "const"]
  | _ => []

/-- The keywords of a schema node that are rules by themselves. -/
def ofNode (node : Dict Json) : RuleBag :=
  node.foldl (fun bag (key, param) =>
    let strict (flag : String) : Json := .bool ((node.get? flag).any Json.isTrue)
    match (Keyword.ofName? key).filter Keyword.isSchemaKeyword with
    | none => bag
    | some .minimum => Dict.insert bag key [param, strict "exclusiveMinimum"]
    | some .maximum => Dict.insert bag key [param, strict "exclusiveMaximum"]
    | some .exclusiveMinimum => if param.isNum then Dict.insert bag key [param] else bag
    | some .exclusiveMaximum => if param.isNum then Dict.insert bag key [param] else bag
    | some _ => Dict.insert bag key [param]) []

end RuleBag

/-- The rules of the schemas that a node combines. -/
structure Combination where
  allOf : List (Option Rule)
  anyOf : List (Option Rule)
  oneOf : List (Option Rule)
  not : Option Rule

/-- The rule of a node and of the schemas it combines. -/
def Combination.rule? (c : Combination) (own : Option Rule) : Option Rule :=
  Rule.all? [own, Rule.all? c.allOf, Rule.any? c.anyOf, Rule.one? c.oneOf, c.not.map .not]

mutual
/-- The rule of all validation keywords of a schema node, including those of the schemas that it
combines. -/
def schemaRule? (formats : FormatTable) : Json → Option Rule
  | .obj node => (combinationOf formats node).rule? ((RuleBag.ofNode node).rule? formats)
  | _ => none

/-- The rules of the schemas under `allOf`, `anyOf`, `oneOf` and `not`. -/
def combinationOf (formats : FormatTable) : List (String × Json) → Combination
  | [] => ⟨[], [], [], none⟩
  | (key, value) :: rest =>
    let c := combinationOf formats rest
    if key = "not" then { c with not := schemaRule? formats value }
    else
      match value with
      | .arr items =>
        if key = "allOf" then { c with allOf := schemaRules formats items }
        else if key = "anyOf" then { c with anyOf := schemaRules formats items }
        else if key = "oneOf" then { c with oneOf := schemaRules formats items }
        else c
      | _ => c

/-- The rules of schemas. -/
def schemaRules (formats : FormatTable) : List Json → List (Option Rule)
  | [] => []
  | schema :: rest => schemaRule? formats schema :: schemaRules formats rest
end

end FormModel
