import FormModel.Pointer.ObjectPath
import FormModel.Template.Written

/-!
Finding a control by a path.  A path that looks like a JSON Pointer is read as one, any other as an
object path.  The same paths lead through a template and through its JSON form.
-/

namespace FormModel

/-- The tokens of a path, without the last one when the parent is meant. -/
def pathTokens? (path : String) (parent : Bool) : Option Tokens :=
  let tokens := if Pointer.isPointer path then Pointer.parse? path else some (ObjectPath.parse path)
  if parent then tokens.bind fun ts => if ts.isEmpty then none else some ts.dropLast else tokens

/-- The control that a path leads to. -/
def Template.locate? (t : Template) (path : String) (parent : Bool) : Option Template :=
  (pathTokens? path parent).bind t.descendant?

namespace Json

/-- The JSON form of the control under a key, in the JSON form of a control. -/
def control? (node : Json) (key : String) : Option Json :=
  let child := match node.member? "controls" with
    | some (.obj controls) => Dict.get? controls key
    | some (.arr controls) => (Template.listPosition? key controls.length).bind fun i => controls[i]?
    | _ => none
  child.filter fun j => !j.isNull

/-- The control at the end of keys, each followed from the one before. -/
def descendantControl? (node : Json) : List String → Option Json
  | [] => some node
  | key :: rest => (node.control? key).bind (descendantControl? · rest)

/-- The control that a path leads to. -/
def locateControl? (node : Json) (path : String) (parent : Bool) : Option Json :=
  (pathTokens? path parent).bind node.descendantControl?

end Json

end FormModel
