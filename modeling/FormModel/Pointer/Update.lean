import FormModel.Pointer.Lookup

/-!
Writing and removing values at pointers.  A write makes the containers on its way where there is
nothing or `null`: an array if the token into it is made for one, else an object.  It stops at a scalar.
-/

namespace FormModel

namespace Json

/-- An empty array or object. -/
def emptyContainer (isArray : Bool) : Json := if isArray then .arr [] else .obj []

/-- `null` replaced by the container that a token asks for. -/
def containerFor (current : Json) (token : String) : Json :=
  if current.isNull then emptyContainer (Pointer.isIndexToken token) else current

/-- The items, followed by as many `null` as make `i` a position. -/
def padTo (items : List Json) (i : Nat) : List Json :=
  items ++ List.replicate (i + 1 - items.length) .null

/-- The position that a token writes to; a dash is the one behind the last item. -/
def writeIndex? (items : List Json) (token : String) : Option Nat :=
  if token = "-" then some items.length else Pointer.index? token

/-- Writes at the last token of a pointer.  With `insert` an item is put before the one at its position. -/
def setLast (current : Json) (token : String) (value : Json) (insert : Bool) : Bool × Json :=
  match current.containerFor token with
  | .arr items =>
    match writeIndex? items token with
    | none => (false, .arr items)
    | some i =>
      if insert && token != "-" && i ≤ items.length then (true, .arr (items.insertIdx i value))
      else (true, .arr ((padTo items i).set i value))
  | .obj members => (true, .obj (Dict.insert members token value))
  | other => (false, other)

/-- Writes `value` at tokens.  The flag tells whether it arrived; if not, the value returned still has
the containers made on the way. -/
def setTokens (current : Json) (tokens : Tokens) (value : Json) (insert : Bool) : Bool × Json :=
  match tokens with
  | [] => (true, value)
  | [last] => current.setLast last value insert
  | token :: next :: rest =>
    let descend (child : Json) : Bool × Json :=
      let child := child.containerFor next
      if child.isContainer then child.setTokens (next :: rest) value insert else (false, child)
    match current.containerFor token with
    | .arr items =>
      match writeIndex? items token with
      | none => (false, .arr items)
      | some i =>
        let items := padTo items i
        let (ok, child) := descend (items.getD i .null)
        (ok, .arr (items.set i child))
    | .obj members =>
      let (ok, child) := descend ((Dict.get? members token).getD .null)
      (ok, .obj (Dict.insert members token child))
    | other => (false, other)

/-- Writes `value` at an address and tells whether it arrived. -/
def set (root : Json) (address : Address) (value : Json) (insert : Bool) : Bool × Json :=
  match address.parse? with
  | none => (false, root)
  | some tokens => root.setTokens tokens value insert

/-- Writes `value` at a pointer, over what is there. -/
def put (root : Json) (pointer : String) (value : Json) : Json :=
  (root.set (.text pointer) value false).2

/-- Replaces the value at tokens if there is one. -/
def assignTokens? (current : Json) : Tokens → Json → Option Json
  | [], value => some value
  | token :: rest, value => do
    let slot ← Pointer.slot? current token
    let child ← current.atSlot? slot
    let child ← child.assignTokens? rest value
    return current.setSlot slot child

/-- Replaces the value at an address if there is one. -/
def assign? (root : Json) (address : Address) (value : Json) : Option Json :=
  address.parse?.bind fun tokens => root.assignTokens? tokens value

/-- Takes the value at the last token out of its container; a dash takes the last item.  The value comes
with what the container is then. -/
def removeLast (current : Json) (token : String) : Option Json × Json :=
  match current with
  | .arr items =>
    match if token = "-" then (if items.isEmpty then none else some (items.length - 1))
      else Pointer.index? token with
    | none => (none, .arr items)
    | some i => (items[i]?, .arr (items.eraseIdx i))
  | .obj members => (Dict.get? members token, .obj (Dict.erase members token))
  | other => (none, other)

/-- Takes the value at tokens out: the value, if there is one, and what is there then.  Of the whole
document `null` remains. -/
def removeTokens (current : Json) : Tokens → Option Json × Json
  | [] => (some current, .null)
  | [last] => current.removeLast last
  | token :: next :: rest =>
    match Pointer.slot? current token with
    | none => (none, current)
    | some slot =>
      match current.atSlot? slot with
      | none => (none, current)
      | some child =>
        let (removed, child) := child.removeTokens (next :: rest)
        (removed, current.setSlot slot child)

/-- Takes the value at an address out: the value, if there is one, and the document then. -/
def remove (root : Json) (address : Address) : Option Json × Json :=
  match address.parse? with
  | none => (none, root)
  | some tokens => root.removeTokens tokens

/-- The value at an address and what remains without it, if there is such a value. -/
def remove? (root : Json) (address : Address) : Option (Json × Json) :=
  let (removed, rest) := root.remove address
  removed.map (·, rest)

end Json

end FormModel
