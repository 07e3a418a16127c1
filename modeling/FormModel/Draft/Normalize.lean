import FormModel.Draft.Conversion

/-!
A schema of any draft said in draft 6.  The node is converted first and the schemas inside it after that,
with what has been learnt about the draft on the way; what is learnt inside is not known outside, but for
whether anything has been changed.
-/

namespace FormModel.Draft

/-- Whether the members of an object under a keyword are schemas. -/
def holdsNamedSchemas (key : String) : Bool :=
  ["definitions", "dependencies", "properties", "patternProperties"].contains key

/-- Whether the value of a keyword is a schema or an array of schemas. -/
def holdsSchema (key : String) : Bool :=
  ["items", "additionalItems", "additionalProperties", "allOf", "anyOf", "oneOf", "not"].contains key

section Inner

variable (convert : Json → DraftState → Option (Json × DraftState))

/-- Schemas converted one after the other, from the same draft. -/
def convertItems : List Json → DraftState → Option (List Json × DraftState)
  | [], state => some ([], state)
  | item :: rest, state => do
    let (item, inner) ← convert item state
    let (rest, state) ← convertItems rest { state with changed := state.changed || inner.changed }
    return (item :: rest, state)

/-- The entries of an object, each converted by itself, and whether one has been changed. -/
def convertEntries (convertValue : String → Json → Option (Json × Bool)) :
    List (String × Json) → Option (List (String × Json) × Bool)
  | [] => some ([], false)
  | (key, value) :: rest => do
    let (value, changed) ← convertValue key value
    let (rest, changed') ← convertEntries convertValue rest
    return ((key, value) :: rest, changed || changed')

/-- A schema inside of another, converted from its state, and whether it has been changed. -/
def convertInner (state : DraftState) (schema : Json) : Option (Json × Bool) :=
  (convert schema state).map fun (schema, inner) => (schema, inner.changed)

/-- The value of a keyword with the schemas inside converted, and whether one has been changed. -/
def convertValue (state : DraftState) (key : String) : Json → Option (Json × Bool)
  | .obj members =>
    if holdsNamedSchemas key then
      (convertEntries (fun _ => convertInner convert state) members).map fun (members, changed) =>
        (.obj members, changed)
    else if holdsSchema key then convertInner convert state (.obj members)
    else some (.obj members, false)
  | .arr items => if holdsSchema key then convertInner convert state (.arr items) else some (.arr items, false)
  | scalar => some (scalar, false)

/-- The members of a schema node with the schemas inside converted, and whether one has been changed. -/
def convertMembers (state : DraftState) : List (String × Json) → Option (List (String × Json) × Bool) :=
  convertEntries (convertValue convert state)

/-- The schemas that a node extends, each converted from the same state. -/
def convertExtended (r : Conversion) : Option Conversion :=
  match r.extended? with
  | none => some r
  | some members => do
    let members ← members.mapM fun member => (convert member r.state).map (·.1)
    return r.takeExtended members

end Inner

/-- A schema in draft 6 and the state after it; `none` if `fuel` levels are too few. -/
def convert : (fuel : Nat) → Json → DraftState → Option (Json × DraftState)
  | 0, _, _ => none
  | fuel + 1, .obj node, state => do
    let r ← convertExtended (convert fuel) (Conversion.start node state)
    let r := r.finish
    let (members, inner) ← convertMembers (convert fuel) r.state r.node
    return (.obj members, { r.state with changed := r.state.changed || inner })
  | fuel + 1, .arr items, state => do
    let (items, state) ← convertItems (convert fuel) items state
    return (.arr items, state)
  | _ + 1, scalar, state => some (scalar, state)

/-- Enough levels for a schema: every level goes into the schema, or into an alternative for one of the
entries of `type` or `disallow`, of which there are not more than nodes. -/
def enoughLevels (schema : Json) : Nat := 4 * schema.size + 8

/-- A schema said in draft 6, from a state, with the state after it. -/
def normalizeFrom (state : DraftState) (schema : Json) : Json × DraftState :=
  (convert (enoughLevels schema) schema state).getD (schema, state)

/-- A schema said in draft 6. -/
def normalize (schema : Json) : Json := (normalizeFrom .initial schema).1

end FormModel.Draft
