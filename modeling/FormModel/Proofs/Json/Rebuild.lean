import FormModel.Proofs.Json.Walk

/-!
Values rebuilt scalar by scalar.  A callback that leaves arrays and objects as they are is given each node once, in the order of
the walk, and it makes no difference to what comes out whether it is given a container before what is inside it or after that.
-/

namespace FormModel

namespace Json

-- Whether a value is made of another one by replacing the scalars in it, each by what `f` makes of it and of the pointer to
-- it: arrays and objects stay where they are and have the same places inside.
structure ScalarsReplaced (f : Json → String → Json) (root result : Json) : Prop where
  scalar : ∀ p v, root.follow? p = some v → v.isContainer = false → result.follow? p = some (f v (Pointer.ofPath p))
  container : ∀ p v, root.follow? p = some v → v.isContainer = true →
    ∃ v', result.follow? p = some v' ∧ v'.kind = v.kind ∧ v'.slots = v.slots

-- Whether a callback changes nothing but scalars, and makes scalars of them.
structure ScalarsOnly (f : Json → String → Json) : Prop where
  container : ∀ v pointer, v.isContainer = true → f v pointer = v
  scalar : ∀ v pointer, v.isContainer = false → (f v pointer).isContainer = false

-- What a callback is given for a node that is rebuilt into `e'`: bottom up a container comes after what is inside it.
def given (bottomUp : Bool) (e e' : String × Json) : String × Json := if bottomUp && e.2.isContainer then e' else e

section Scalars

variable (f : Json → String → Json)

mutual
-- A value with the scalars in it replaced.
def mapScalarsFrom (pointer : String) : Json → Json
  | .arr items => .arr (mapScalarsOfItems pointer 0 items)
  | .obj members => .obj (mapScalarsOfMembers pointer members)
  | scalar => f scalar pointer

-- Items that start at a position with the scalars in them replaced.
def mapScalarsOfItems (pointer : String) (i : Nat) : List Json → List Json
  | [] => []
  | j :: rest => mapScalarsFrom (pointer ++ "/" ++ toString i) j :: mapScalarsOfItems pointer (i + 1) rest

-- Members with the scalars in them replaced.
def mapScalarsOfMembers (pointer : String) : List (String × Json) → List (String × Json)
  | [] => []
  | (key, j) :: rest => (key, mapScalarsFrom (Pointer.child pointer key) j) :: mapScalarsOfMembers pointer rest
end

-- A node with the scalars in it replaced.
def mapNode (e : String × Json) : String × Json := (e.1, mapScalarsFrom f e.1 e.2)

-- The callback that does what `f` does and takes down what it is given.
def noting (pointer : String) (v : Json) : StateM (List (String × Json)) Json := do
  modify (· ++ [(pointer, v)])
  return f v pointer

end Scalars

variable {f : Json → String → Json} {root j v : Json} {items : List Json} {members : List (String × Json)} {slot : Slot}
  {p q : Path} {pointer : String}

theorem mapScalarsFrom_of_not_isContainer (h : v.isContainer = false) : mapScalarsFrom f pointer v = f v pointer := by
  cases v
  case arr => contradiction
  case obj => contradiction
  all_goals rfl

theorem nodesFrom_of_not_isContainer {bottomUp : Bool} (h : v.isContainer = false) :
    nodesFrom bottomUp pointer v = [(pointer, v)] := by
  cases v
  case arr => contradiction
  case obj => contradiction
  all_goals rfl

theorem getElem?_mapScalarsOfItems {n i : Nat} : (mapScalarsOfItems f pointer n items)[i]? =
    (items[i]?).map (mapScalarsFrom f (pointer ++ "/" ++ toString (n + i))) := by
  induction items generalizing n i
  case nil => rfl
  case cons j rest hi =>
    cases i
    case zero => rfl
    case succ i =>
      rw [mapScalarsOfItems, List.getElem?_cons_succ, List.getElem?_cons_succ, hi, Nat.add_right_comm, Nat.add_assoc]

theorem get?_mapScalarsOfMembers {name : String} : Dict.get? (mapScalarsOfMembers f pointer members) name =
    (Dict.get? members name).map (mapScalarsFrom f (Pointer.child pointer name)) := by
  induction members
  case nil => rfl
  case cons e rest hi =>
    obtain ⟨key, j⟩ := e
    rw [mapScalarsOfMembers, Dict.get?, Dict.get?, hi]
    split
    case isTrue h => rw [h, Option.map_some]
    case isFalse => rfl

theorem atSlot?_mapScalarsFrom (h : j.atSlot? slot = some v) : (mapScalarsFrom f (Pointer.ofPath p) j).atSlot? slot =
    some (mapScalarsFrom f (Pointer.ofPath (p ++ [slot])) v) := by
  cases j <;> cases slot <;> simp only [atSlot?, reduceCtorEq] at h
  case arr.item =>
    rw [mapScalarsFrom, atSlot?, getElem?_mapScalarsOfItems, h, Nat.zero_add, Pointer.ofPath_concat_item, Option.map_some]
  case obj.member => rw [mapScalarsFrom, atSlot?, get?_mapScalarsOfMembers, h, Pointer.ofPath_concat, Option.map_some]

-- At the place of a value stands the value with the scalars in it replaced.
theorem follow?_mapScalarsFrom (h : j.follow? q = some v) : (mapScalarsFrom f (Pointer.ofPath p) j).follow? q =
    some (mapScalarsFrom f (Pointer.ofPath (p ++ q)) v) := by
  induction q generalizing j p
  case nil => rw [follow?_nil, List.append_nil, Option.some.inj h]
  case cons slot q hi =>
    obtain ⟨u, hu, h⟩ := Option.bind_eq_some_iff.mp h
    rw [follow?_cons, atSlot?_mapScalarsFrom hu, Option.bind_some, hi h, List.append_assoc, List.singleton_append]

theorem length_mapScalarsOfItems {i : Nat} : (mapScalarsOfItems f pointer i items).length = items.length := by
  induction items generalizing i
  case nil => rfl
  case cons hi => exact congrArg (· + 1) hi

theorem keys_mapScalarsOfMembers : Dict.keys (mapScalarsOfMembers f pointer members) = Dict.keys members := by
  induction members
  case nil => rfl
  case cons e _ hi => exact congrArg (e.1 :: ·) hi

theorem slots_obj : (Json.obj members).slots = (Dict.keys members).map .member := by
  rw [slots, Dict.keys, List.map_map]
  rfl

theorem slots_mapScalarsFrom (h : j.isContainer = true) : (mapScalarsFrom f pointer j).slots = j.slots := by
  cases j
  case arr => rw [mapScalarsFrom, slots, slots, length_mapScalarsOfItems]
  case obj => rw [mapScalarsFrom, slots_obj, slots_obj, keys_mapScalarsOfMembers]
  all_goals contradiction

theorem kind_mapScalarsFrom (h : j.isContainer = true) : (mapScalarsFrom f pointer j).kind = j.kind := by
  cases j
  case arr => rfl
  case obj => rfl
  all_goals contradiction

theorem scalarsReplaced_mapScalarsFrom : ScalarsReplaced f root (mapScalarsFrom f "" root) where
  scalar _ _ hp hv := mapScalarsFrom_of_not_isContainer (f := f) hv ▸ follow?_mapScalarsFrom (p := []) hp
  container _ _ hp hv := ⟨_, follow?_mapScalarsFrom (p := []) hp, kind_mapScalarsFrom hv, slots_mapScalarsFrom hv⟩

mutual
-- The nodes are as many as before, and under the same pointers.
theorem nodesFrom_mapScalarsFrom {bottomUp : Bool} (hf : ScalarsOnly f) : (j : Json) → {pointer : String} →
    nodesFrom bottomUp pointer (mapScalarsFrom f pointer j) = (nodesFrom bottomUp pointer j).map (mapNode f)
  | .arr items, pointer => by
    rw [mapScalarsFrom, nodesFrom, nodesFrom, nodesOfItems_mapScalarsOfItems hf items]
    cases bottomUp <;> simp [mapNode, mapScalarsFrom]
  | .obj members, pointer => by
    rw [mapScalarsFrom, nodesFrom, nodesFrom, nodesOfMembers_mapScalarsOfMembers hf members]
    cases bottomUp <;> simp [mapNode, mapScalarsFrom]
  | .null, _ | .bool _, _ | .num _, _ | .str _, _ => by
    rw [mapScalarsFrom_of_not_isContainer rfl, nodesFrom_of_not_isContainer (hf.scalar _ _ rfl), nodesFrom_of_not_isContainer rfl]
    rfl

theorem nodesOfItems_mapScalarsOfItems {bottomUp : Bool} (hf : ScalarsOnly f) : (items : List Json) → {pointer : String} →
    {i : Nat} → nodesOfItems bottomUp pointer i (mapScalarsOfItems f pointer i items) =
      (nodesOfItems bottomUp pointer i items).map (mapNode f)
  | [], _, _ => rfl
  | j :: rest, _, _ => by
    rw [mapScalarsOfItems, nodesOfItems, nodesOfItems, nodesFrom_mapScalarsFrom hf j, nodesOfItems_mapScalarsOfItems hf rest,
      List.map_append]

theorem nodesOfMembers_mapScalarsOfMembers {bottomUp : Bool} (hf : ScalarsOnly f) : (members : List (String × Json)) →
    {pointer : String} → nodesOfMembers bottomUp pointer (mapScalarsOfMembers f pointer members) =
      (nodesOfMembers bottomUp pointer members).map (mapNode f)
  | [], _ => rfl
  | (_, j) :: rest, _ => by
    rw [mapScalarsOfMembers, nodesOfMembers, nodesOfMembers, nodesFrom_mapScalarsFrom hf j,
      nodesOfMembers_mapScalarsOfMembers hf rest, List.map_append]
end

section Run

variable {α β : Type} {bottomUp : Bool} {levels : Nat} {passed : List (String × Json)} {a : α}
  {m : StateM (List (String × Json)) α} {g : α → StateM (List (String × Json)) β}
  {visit : String → Json → StateM (List (String × Json)) Json}

theorem run_pure : (pure a : StateM (List (String × Json)) α).run passed = (a, passed) := rfl

theorem run_bind : (m >>= g).run passed = (g (m.run passed).1).run (m.run passed).2 := rfl

theorem run_noting : (noting f pointer v).run passed = (f v pointer, passed ++ [(pointer, v)]) := rfl

-- Whether going through a value replaces the scalars in it and gives each node to the callback, in the order of the walk.
def Rebuilds (f : Json → String → Json) (bottomUp : Bool) (visit : String → Json → StateM (List (String × Json)) Json)
    (j : Json) : Prop :=
  ∀ pointer passed, (visit pointer j).run passed =
    (mapScalarsFrom f pointer j, passed ++ (nodesFrom bottomUp pointer j).map fun e => given bottomUp e (mapNode f e))

theorem run_rebuildItems {i : Nat} (hv : ∀ j ∈ items, Rebuilds f bottomUp visit j) :
    (rebuildItems visit pointer i items).run passed = (mapScalarsOfItems f pointer i items,
      passed ++ (nodesOfItems bottomUp pointer i items).map fun e => given bottomUp e (mapNode f e)) := by
  induction items generalizing i passed
  case nil => rw [rebuildItems, run_pure, mapScalarsOfItems, nodesOfItems, List.map_nil, List.append_nil]
  case cons j rest hi =>
    have ⟨hj, hv⟩ := List.forall_mem_cons.mp hv
    rw [rebuildItems, run_bind, hj, run_bind, hi hv, run_pure, mapScalarsOfItems, nodesOfItems, List.map_append, List.append_assoc]

theorem run_rebuildMembers (hv : ∀ e ∈ members, Rebuilds f bottomUp visit e.2) :
    (rebuildMembers visit pointer members).run passed = (mapScalarsOfMembers f pointer members,
      passed ++ (nodesOfMembers bottomUp pointer members).map fun e => given bottomUp e (mapNode f e)) := by
  induction members generalizing passed
  case nil => rw [rebuildMembers, run_pure, mapScalarsOfMembers, nodesOfMembers, List.map_nil, List.append_nil]
  case cons e rest hi =>
    have ⟨hj, hv⟩ := List.forall_mem_cons.mp hv
    rw [rebuildMembers, run_bind, hj, run_bind, hi hv, run_pure, mapScalarsOfMembers, nodesOfMembers, List.map_append,
      List.append_assoc]

section Walks

variable {M : Type → Type} [Monad M] {callback : String → Json → M Json}

theorem rebuildUpItems_eq {i : Nat} : rebuildUpItems callback pointer i items =
    rebuildItems (rebuildUpFrom callback) pointer i items := by
  induction items generalizing i
  case nil => rfl
  case cons hi => rw [rebuildUpItems, rebuildItems, hi]

theorem rebuildUpMembers_eq : rebuildUpMembers callback pointer members =
    rebuildMembers (rebuildUpFrom callback) pointer members := by
  induction members
  case nil => rfl
  case cons hi => rw [rebuildUpMembers, rebuildMembers, hi]

end Walks

-- Bottom up a container is given to the callback after the scalars in it have been replaced.
theorem rebuilds_up (hf : ScalarsOnly f) (j : Json) : Rebuilds f true (rebuildUpFrom (noting f)) j := by
  induction j using inductionInside
  case scalar j hj =>
    intro pointer passed
    cases j
    case arr => contradiction
    case obj => contradiction
    all_goals rfl
  case arr items hi =>
    intro pointer passed
    rw [rebuildUpFrom, rebuildUpItems_eq, run_bind, run_rebuildItems hi, run_noting, hf.container _ _ rfl]
    simp [nodesFrom, given, mapNode, isContainer, mapScalarsFrom]
  case obj members hi =>
    intro pointer passed
    rw [rebuildUpFrom, rebuildUpMembers_eq, run_bind, run_rebuildMembers hi, run_noting, hf.container _ _ rfl]
    simp [nodesFrom, given, mapNode, isContainer, mapScalarsFrom]

-- Top down the callback puts a scalar in the place of a scalar, so that there is nothing more to go through there.
theorem rebuilds_down (hf : ScalarsOnly f) (hl : j.depth < levels) : Rebuilds f false (rebuildDownFrom (noting f) levels) j := by
  induction levels generalizing j
  case zero => contradiction
  case succ levels hi =>
    intro pointer passed
    have hl := Nat.le_of_lt_succ hl
    rw [rebuildDownFrom, run_bind, run_noting]
    cases hj : j.isContainer
    case true =>
      rw [hf.container j pointer hj]
      cases j
      case arr items =>
        dsimp only
        rw [run_bind, run_rebuildItems fun j hm => hi (Nat.lt_of_le_of_lt (depth_le_depthItems hm) hl), run_pure]
        simp [nodesFrom, given, mapScalarsFrom]
      case obj members =>
        dsimp only
        rw [run_bind, run_rebuildMembers fun e hm => hi (Nat.lt_of_le_of_lt (depth_le_depthMembers hm) hl), run_pure]
        simp [nodesFrom, given, mapScalarsFrom]
      all_goals contradiction
    case false =>
      rw [nodesFrom_of_not_isContainer hj, mapScalarsFrom_of_not_isContainer hj]
      have hv := hf.scalar j pointer hj
      cases hfv : f j pointer <;> first | rfl | simp [hfv, isContainer] at hv

theorem run_rebuild (hf : ScalarsOnly f) : (root.rebuild (noting f) bottomUp).run [] =
    (mapScalarsFrom f "" root, (root.nodes bottomUp).map fun e => given bottomUp e (mapNode f e)) := by
  rw [rebuild]
  split
  case isTrue h => exact h ▸ rebuilds_up hf root "" []
  case isFalse h =>
    rw [Bool.not_eq_true] at h
    exact h ▸ rebuilds_down hf (Nat.lt_add_right growth (Nat.lt_succ_self _)) "" []

end Run

-- The callback that puts in the place of a scalar where it stands.
def address (v : Json) (pointer : String) (root : Json) : Json :=
  if v.isContainer then v else .str (pointer ++ " of an " ++ root.kind)

end Json

end FormModel
