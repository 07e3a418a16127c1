import FormModel.Json
import FormModel.Pointer

/-!
Walks over all nodes of a value.  Each node comes once, with the pointer to it: a container before its
children, or after them when the walk goes bottom up; children come in the order of the document.
-/

namespace FormModel.Json

mutual
/-- The nodes below and at `pointer`, each with its pointer. -/
def nodesFrom (bottomUp : Bool) (pointer : String) : Json → List (String × Json)
  | .arr items =>
    let below := nodesOfItems bottomUp pointer 0 items
    if bottomUp then below ++ [(pointer, .arr items)] else (pointer, .arr items) :: below
  | .obj members =>
    let below := nodesOfMembers bottomUp pointer members
    if bottomUp then below ++ [(pointer, .obj members)] else (pointer, .obj members) :: below
  | scalar => [(pointer, scalar)]

/-- The nodes of items that start at a position. -/
def nodesOfItems (bottomUp : Bool) (pointer : String) (i : Nat) : List Json → List (String × Json)
  | [] => []
  | j :: rest =>
    nodesFrom bottomUp (pointer ++ "/" ++ toString i) j ++ nodesOfItems bottomUp pointer (i + 1) rest

/-- The nodes of members. -/
def nodesOfMembers (bottomUp : Bool) (pointer : String) :
    List (String × Json) → List (String × Json)
  | [] => []
  | (key, j) :: rest =>
    nodesFrom bottomUp (Pointer.child pointer key) j ++ nodesOfMembers bottomUp pointer rest
end

/-- All nodes with their pointers. -/
def nodes (root : Json) (bottomUp : Bool) : List (String × Json) := nodesFrom bottomUp "" root

/-- The pointers of all nodes, containers first. -/
def pointers (root : Json) : List String := (root.nodes false).map (·.1)

/-- The scalars, each under its pointer. -/
def dict (root : Json) : Dict Json :=
  Dict.ofList ((root.nodes false).filter fun (_, j) => !j.isContainer)

section Rebuild

variable {m : Type → Type} [Monad m] (f : String → Json → m Json)

mutual
/-- The value rebuilt from its parts up: `f` gets each node after its children. -/
def rebuildUpFrom (pointer : String) : Json → m Json
  | .arr items => do f pointer (.arr (← rebuildUpItems pointer 0 items))
  | .obj members => do f pointer (.obj (← rebuildUpMembers pointer members))
  | scalar => f pointer scalar

/-- Items rebuilt from their parts up. -/
def rebuildUpItems (pointer : String) (i : Nat) : List Json → m (List Json)
  | [] => pure []
  | j :: rest => do
    let j ← rebuildUpFrom (pointer ++ "/" ++ toString i) j
    return j :: (← rebuildUpItems pointer (i + 1) rest)

/-- Members rebuilt from their parts up. -/
def rebuildUpMembers (pointer : String) : List (String × Json) → m (List (String × Json))
  | [] => pure []
  | (key, j) :: rest => do
    let j ← rebuildUpFrom (Pointer.child pointer key) j
    return (key, j) :: (← rebuildUpMembers pointer rest)
end

/-- Runs an action on items, each with its pointer. -/
def rebuildItems (visit : String → Json → m Json) (pointer : String) (i : Nat) :
    List Json → m (List Json)
  | [] => pure []
  | j :: rest => do
    let j ← visit (pointer ++ "/" ++ toString i) j
    return j :: (← rebuildItems visit pointer (i + 1) rest)

/-- Runs an action on members, each with its pointer. -/
def rebuildMembers (visit : String → Json → m Json) (pointer : String) :
    List (String × Json) → m (List (String × Json))
  | [] => pure []
  | (key, j) :: rest => do
    let j ← visit (Pointer.child pointer key) j
    return (key, j) :: (← rebuildMembers visit pointer rest)

/-- The value rebuilt from the root down: `f` gets each node before its children, and what `f` puts
there is gone through too.  Nodes deeper than `levels` are left alone. -/
def rebuildDownFrom : (levels : Nat) → (pointer : String) → Json → m Json
  | 0, _, j => pure j
  | levels + 1, pointer, j => do
    match ← f pointer j with
    | .arr items => return .arr (← rebuildItems (rebuildDownFrom levels) pointer 0 items)
    | .obj members => return .obj (← rebuildMembers (rebuildDownFrom levels) pointer members)
    | scalar => return scalar

/-- How many levels a walk down may add to a value. -/
def growth : Nat := 4096

/-- The value rebuilt from what `f` makes of each node. -/
def rebuild (root : Json) (bottomUp : Bool) : m Json :=
  if bottomUp then rebuildUpFrom f "" root else rebuildDownFrom f (root.depth + 1 + growth) "" root

end Rebuild

end FormModel.Json
