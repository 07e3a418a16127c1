import FormModel.SchemaType

/-!
Deep merging of values.  Objects are merged key by key and arrays slot by slot, an object and an array
by merging the object with each item, and a scalar replaces what came before.  Empty values change nothing.
-/

namespace FormModel.Json

section Spread

variable (f : Json → Json)

mutual
/-- Applies `f` to what the arrays in a value hold, however deep they are nested; an empty array is left
to `f` itself. -/
def spread : Json → Json
  | .arr items => if items.isEmpty then f (.arr []) else .arr (spreadItems items)
  | other => f other

/-- Spreads `f` over items. -/
def spreadItems : List Json → List Json
  | [] => []
  | j :: rest => spread j :: spreadItems rest
end

end Spread

mutual
/-- A later value merged over an earlier one. -/
def mergeOver : (later : Json) → (earlier : Json) → Json
  | .obj members, earlier =>
    if members.isEmpty then earlier
    else
      earlier.spread fun
        | .obj before => if before.isEmpty then .obj members else .obj (mergeMembers members before)
        | _ => .obj members
  | .arr items, earlier =>
    if items.isEmpty then earlier
    else
      match earlier with
      | .obj before => if before.isEmpty then .arr items else .arr (mergeEach items (.obj before))
      | .arr before => if before.isEmpty then .arr items else .arr (mergeSlots items before)
      | _ => .arr items
  | scalar, earlier => if scalar.isEmpty then earlier else scalar
termination_by structural later => later

/-- Later members merged into earlier ones. -/
def mergeMembers : List (String × Json) → Dict Json → Dict Json
  | [], before => before
  | (key, value) :: rest, before =>
    let value := match before.get? key with
      | some previous => mergeOver value previous
      | none => value
    mergeMembers rest (before.insert key value)

/-- Each later item merged over the same value. -/
def mergeEach : List Json → Json → List Json
  | [], _ => []
  | value :: rest, earlier => mergeOver value earlier :: mergeEach rest earlier

/-- Later items merged over earlier ones, place by place. -/
def mergeSlots : List Json → List Json → List Json
  | [], before => before
  | value :: rest, [] => value :: rest
  | value :: rest, previous :: before => mergeOver value previous :: mergeSlots rest before
end

/-- Values merged in turn. -/
def mergeAll (values : List Json) : Json := values.foldl (fun earlier later => mergeOver later earlier) .null

end FormModel.Json
