import FormModel.Template

/-!
The JSON form of control templates: an object that names the kind of the control under `controlType`.
Reading takes objects with further members too, and drops those.
-/

namespace FormModel

namespace RuleBag

/-- Rules as an object from names to lists of parameters. -/
def toJson (bag : RuleBag) : Json := .obj (bag.map fun (name, params) => (name, .arr params))

/-- The entries of a bag, if every value is a list. -/
def ofMembers? : List (String × Json) → Option RuleBag
  | [] => some []
  | (name, .arr params) :: rest => (ofMembers? rest).map ((name, params) :: ·)
  | _ => none

/-- Rules read from an object. -/
def ofJson? (j : Json) : Option RuleBag := j.members?.bind ofMembers?

theorem ofJson?_toJson (bag : RuleBag) : ofJson? bag.toJson = some bag := by
  induction bag with
  | nil => rfl
  | cons e rest ih =>
    simp only [ofJson?, toJson, Json.members?, Option.bind_some, List.map_cons, ofMembers?] at ih ⊢
    rw [ih]
    rfl

end RuleBag

namespace Template

mutual
/-- The JSON form of a control. -/
def toJson : Template → Json
  | .group controls rules =>
    .obj [("controlType", "group"), ("controls", .obj (membersToJson controls)), ("validators", rules.toJson)]
  | .list controls rules =>
    .obj [("controlType", "list"), ("controls", .arr (itemsToJson controls)), ("validators", rules.toJson)]
  | .leaf value disabled rules =>
    .obj [("controlType", "leaf"), ("value", value), ("disabled", .bool disabled),
      ("validators", rules.toJson)]

/-- The JSON form of the controls of a group. -/
def membersToJson : List (String × Option Template) → List (String × Json)
  | [] => []
  | (name, some t) :: rest => (name, t.toJson) :: membersToJson rest
  | (name, none) :: rest => (name, .null) :: membersToJson rest

/-- The JSON form of the controls of a list. -/
def itemsToJson : List (Option Template) → List Json
  | [] => []
  | some t :: rest => t.toJson :: itemsToJson rest
  | none :: rest => .null :: itemsToJson rest
end

/-- Whether an object has a control of a kind under `controlType`. -/
def isOfKind (members : Dict Json) (kind : String) : Bool :=
  ((members.get? "controlType").bind Json.string?) == some kind

/-- A leaf read from the members of its JSON form. -/
def leafOf? (members : Dict Json) : Option Template := do
  let rules ← (members.get? "validators").bind RuleBag.ofJson?
  let disabled ← (members.get? "disabled").bind Json.bool?
  let value ← members.get? "value"
  return .leaf value disabled rules

mutual
/-- A control read from its JSON form. -/
def ofJson? : Json → Option Template
  | .obj members =>
    if isOfKind members "group" then do
      let rules ← (Dict.get? members "validators").bind RuleBag.ofJson?
      let controls ← groupControls? members
      return .group controls rules
    else if isOfKind members "list" then do
      let rules ← (Dict.get? members "validators").bind RuleBag.ofJson?
      let controls ← listControls? members
      return .list controls rules
    else if isOfKind members "leaf" then leafOf? members
    else none
  | _ => none

/-- The controls of a group, under the first `controls` of the members. -/
def groupControls? : List (String × Json) → Option (List (String × Option Template))
  | [] => none
  | (key, value) :: rest =>
    if key = "controls" then
      match value with
      | .obj members => membersOf? members
      | _ => none
    else groupControls? rest

/-- The controls of a list, under the first `controls` of the members. -/
def listControls? : List (String × Json) → Option (List (Option Template))
  | [] => none
  | (key, value) :: rest =>
    if key = "controls" then
      match value with
      | .arr items => itemsOf? items
      | _ => none
    else listControls? rest

/-- Controls under names, each `null` or a control. -/
def membersOf? : List (String × Json) → Option (List (String × Option Template))
  | [] => some []
  | (name, .null) :: rest => (membersOf? rest).map ((name, none) :: ·)
  | (name, j) :: rest => do
    let control ← ofJson? j
    let rest ← membersOf? rest
    return (name, some control) :: rest

/-- Controls in order, each `null` or a control. -/
def itemsOf? : List Json → Option (List (Option Template))
  | [] => some []
  | .null :: rest => (itemsOf? rest).map (none :: ·)
  | j :: rest => do
    let control ← ofJson? j
    let rest ← itemsOf? rest
    return some control :: rest
end

end Template

end FormModel
