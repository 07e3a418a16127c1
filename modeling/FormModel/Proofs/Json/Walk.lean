import FormModel.Proofs.Json.Places
import FormModel.Proofs.Pointer.Canonical
import Mathlib.Data.List.Flatten

/-!
The order of the two walks over a value.  The nodes inside an array or object are those at its places, place by place in the
order of the document, and its own node stands before all of them or behind all of them.
-/

namespace FormModel

namespace Json

variable {j root u v v' : Json} {p q s s' : Path} {slot slot' : Slot} {bottomUp : Bool}

-- The places directly inside a value, in the order of the document.
def slots : Json → List Slot
  | .arr items => (List.range items.length).map .item
  | .obj members => members.map fun e => .member e.1
  | _ => []

-- The nodes that a walk comes to at a place of a value and below it.
def nodesAt (bottomUp : Bool) (p : Path) (j : Json) (slot : Slot) : List (String × Json) :=
  ((j.atSlot? slot).map (nodesFrom bottomUp (Pointer.ofPath (p ++ [slot])))).getD []

theorem nodesAt_of_atSlot? (h : j.atSlot? slot = some v) :
    nodesAt bottomUp p j slot = nodesFrom bottomUp (Pointer.ofPath (p ++ [slot])) v := by
  rw [nodesAt, h, Option.map_some, Option.getD_some]

theorem mem_slots_of_atSlot? (h : j.atSlot? slot = some v) : slot ∈ j.slots := by
  cases j <;> cases slot <;> simp only [atSlot?, reduceCtorEq] at h
  case arr.item => exact List.mem_map_of_mem (List.mem_range.mpr (List.getElem?_eq_some_iff.mp h).1)
  case obj.member => exact List.mem_map_of_mem (Dict.mem_of_get? h)

theorem nodesOfItems_eq {i : Nat} {items : List Json} : nodesOfItems bottomUp (Pointer.ofPath p) i items =
    (List.range items.length).flatMap fun k =>
      ((items[k]?).map (nodesFrom bottomUp (Pointer.ofPath (p ++ [.item (i + k)])))).getD [] := by
  induction items generalizing i
  case nil => rfl
  case cons j rest hi =>
    rw [nodesOfItems, ← Pointer.ofPath_concat_item, hi, List.length_cons, List.range_succ_eq_map, List.flatMap_cons,
      List.flatMap_map]
    simp only [List.getElem?_cons_zero, Option.map_some, Option.getD_some, Nat.add_zero, List.getElem?_cons_succ,
      Nat.succ_eq_add_one, Nat.add_assoc, Nat.add_comm 1]

theorem nodesOfMembers_eq {members : List (String × Json)} : nodesOfMembers bottomUp (Pointer.ofPath p) members =
    members.flatMap fun e => nodesFrom bottomUp (Pointer.ofPath (p ++ [.member e.1])) e.2 := by
  induction members
  case nil => rfl
  case cons e rest hi => rw [nodesOfMembers, ← Pointer.ofPath_concat, hi, List.flatMap_cons]

-- A walk stops at a value once, before or after what is inside it.
theorem nodesFrom_eq (hd : j.Distinct) : nodesFrom bottomUp (Pointer.ofPath p) j =
    if bottomUp then j.slots.flatMap (nodesAt bottomUp p j) ++ [(Pointer.ofPath p, j)]
    else (Pointer.ofPath p, j) :: j.slots.flatMap (nodesAt bottomUp p j) := by
  cases j
  case arr items =>
    rw [nodesFrom, nodesOfItems_eq, slots, List.flatMap_map]
    simp only [Nat.zero_add]
    rfl
  case obj members =>
    rw [nodesFrom, nodesOfMembers_eq, slots, List.flatMap_map]
    refine congrArg (fun below => if bottomUp then below ++ _ else _ :: below) (List.flatMap_congr fun e he => ?_)
    have hat : (Json.obj members).atSlot? (.member e.1) = some e.2 := Dict.get?_of_mem hd.1 he
    exact (nodesAt_of_atSlot? hat).symm
  all_goals cases bottomUp <;> rfl

theorem mem_nodesFrom_self : (Pointer.ofPath p, j) ∈ nodesFrom bottomUp (Pointer.ofPath p) j := by
  cases j
  case arr => exact mem_nodesFrom_arr.mpr (.inl rfl)
  case obj => exact mem_nodesFrom_obj.mpr (.inl rfl)
  all_goals exact (mem_nodesFrom_iff_of_not_isContainer rfl).mpr rfl

theorem sublist_inside (h : j.atSlot? slot = some v) : (nodesFrom bottomUp (Pointer.ofPath (p ++ [slot])) v).Sublist
    (j.slots.flatMap (nodesAt bottomUp p j)) := by
  have hs : [slot].Sublist j.slots := List.singleton_sublist.mpr (mem_slots_of_atSlot? h)
  simpa [nodesAt_of_atSlot? h] using hs.flatMap (nodesAt bottomUp p j)

theorem inside_sublist (hd : j.Distinct) : (j.slots.flatMap (nodesAt bottomUp p j)).Sublist
    (nodesFrom bottomUp (Pointer.ofPath p) j) := by
  rw [nodesFrom_eq hd]
  split
  case isTrue => exact List.sublist_append_left ..
  case isFalse => exact List.sublist_cons_self ..

-- A walk over a value goes over each value inside it without a change of order.
theorem sublist_of_follow? (hd : j.Distinct) (h : j.follow? q = some v) :
    (nodesFrom bottomUp (Pointer.ofPath (p ++ q)) v).Sublist (nodesFrom bottomUp (Pointer.ofPath p) j) := by
  induction q generalizing j p
  case nil => rw [List.append_nil, Option.some.inj h]
  case cons slot q hi =>
    obtain ⟨u, hu, h⟩ := Option.bind_eq_some_iff.mp h
    rw [List.append_cons]
    exact (hi (hd.atSlot hu) h).trans ((sublist_inside hu).trans (inside_sublist hd))

theorem mem_nodesAt (hd : j.Distinct) (h : j.follow? (slot :: s) = some v) :
    (Pointer.ofPath (p ++ slot :: s), v) ∈ nodesAt bottomUp p j slot := by
  obtain ⟨u, hu, h⟩ := Option.bind_eq_some_iff.mp h
  rw [List.append_cons p slot s, nodesAt_of_atSlot? hu]
  exact (sublist_of_follow? (hd.atSlot hu) h).subset mem_nodesFrom_self

mutual
theorem perm_nodesFrom (pointer : String) : (j : Json) → (nodesFrom true pointer j).Perm (nodesFrom false pointer j)
  | .arr items => by
    simp only [nodesFrom, if_true, Bool.false_eq_true, if_false]
    exact List.perm_append_singleton .. |>.trans ((perm_nodesOfItems pointer 0 items).cons _)
  | .obj members => by
    simp only [nodesFrom, if_true, Bool.false_eq_true, if_false]
    exact List.perm_append_singleton .. |>.trans ((perm_nodesOfMembers pointer members).cons _)
  | .null | .bool _ | .num _ | .str _ => .refl _

theorem perm_nodesOfItems (pointer : String) (i : Nat) : (items : List Json) →
    (nodesOfItems true pointer i items).Perm (nodesOfItems false pointer i items)
  | [] => .refl _
  | j :: rest => (perm_nodesFrom _ j).append (perm_nodesOfItems pointer (i + 1) rest)

theorem perm_nodesOfMembers (pointer : String) : (members : List (String × Json)) →
    (nodesOfMembers true pointer members).Perm (nodesOfMembers false pointer members)
  | [] => .refl _
  | (_, j) :: rest => (perm_nodesFrom _ j).append (perm_nodesOfMembers pointer rest)
end

-- No two places have the same pointer.
theorem nodup_pointers (hd : root.Distinct) : ((root.nodes bottomUp).map (·.1)).Nodup := by
  have hdown : ((root.nodes false).map (·.1)).Nodup := by
    rw [nodes_eq_places, List.map_map]
    refine List.pairwise_map.mpr ((pairwise_places root hd).imp_of_mem fun {e e'} he he' hpre hp => hpre ?_)
    have heq := eq_of_follow? ((mem_places_iff root hd).mp he) ((mem_places_iff root hd).mp he') (Pointer.compile_injective hp)
    rw [heq]
  cases bottomUp
  case false => exact hdown
  case true => exact ((perm_nodesFrom "" root).map (·.1)).nodup_iff.mpr hdown

-- What a walk over a value comes to, and in which order: two nodes stand in the order of the walk if they are in this order
-- in a sublist.
structure Toured (bottomUp : Bool) (root : Json) (nodes : List (String × Json)) : Prop where
  once : (nodes.map (·.1)).Nodup
  mem_iff : ∀ pointer v, (pointer, v) ∈ nodes ↔ ∃ p, root.follow? p = some v ∧ pointer = Pointer.ofPath p
  nested : ∀ p slot s u v, root.follow? p = some u → root.follow? (p ++ slot :: s) = some v →
    let around := (Pointer.ofPath p, u)
    let inner := (Pointer.ofPath (p ++ slot :: s), v)
    (if bottomUp then [inner, around] else [around, inner]).Sublist nodes
  siblings : ∀ p slot slot' s s' u v v', root.follow? p = some u → [slot, slot'].Sublist u.slots →
    root.follow? (p ++ slot :: s) = some v → root.follow? (p ++ slot' :: s') = some v' →
      [(Pointer.ofPath (p ++ slot :: s), v), (Pointer.ofPath (p ++ slot' :: s'), v')].Sublist nodes

theorem toured_nodes (hd : root.Distinct) : Toured bottomUp root (root.nodes bottomUp) where
  once := nodup_pointers hd
  mem_iff _ _ := mem_nodes_iff bottomUp hd
  nested p slot s u v hu hv := by
    have hud := hd.follow hu
    rw [follow?_append, hu, Option.bind_some] at hv
    refine .trans ?_ (sublist_of_follow? (p := []) hd hu)
    obtain ⟨w, hw, _⟩ := Option.bind_eq_some_iff.mp hv
    have hin : (Pointer.ofPath (p ++ slot :: s), v) ∈ u.slots.flatMap (nodesAt bottomUp p u) :=
      List.mem_flatMap.mpr ⟨slot, mem_slots_of_atSlot? hw, mem_nodesAt hud hv⟩
    rw [List.nil_append, nodesFrom_eq hud]
    split
    case isTrue => exact (List.singleton_sublist.mpr hin).append (.refl [_])
    case isFalse => exact (List.singleton_sublist.mpr hin).cons_cons _
  siblings p slot slot' s s' u v v' hu hs hv hv' := by
    have hud := hd.follow hu
    rw [follow?_append, hu, Option.bind_some] at hv hv'
    refine .trans ?_ ((inside_sublist hud).trans (sublist_of_follow? (p := []) hd hu))
    refine .trans ?_ (hs.flatMap (nodesAt bottomUp p u))
    rw [List.flatMap_cons, List.flatMap_singleton]
    exact (List.singleton_sublist.mpr (mem_nodesAt hud hv)).append (List.singleton_sublist.mpr (mem_nodesAt hud hv'))

/-- Both walks come to the same nodes, each once and under a pointer of its own; a node comes before what is inside it top
down and after it bottom up, and all of an earlier item or member before all of a later one.  The pointer of a node leads to
it, but for a single slash, which is read as the root and stands for the member of the root without a name. -/
theorem nodes_toured (hd : root.Distinct) (hs : root.Short) :
    (root.nodes true).Perm (root.nodes false) ∧ ∀ bottomUp, Toured bottomUp root (root.nodes bottomUp) ∧
      ∀ pointer v, (pointer, v) ∈ root.nodes bottomUp →
        (pointer ≠ "/" → root.at? pointer = some v) ∧ (pointer = "/" → root.member? "" = some v) := by
  refine ⟨perm_nodesFrom "" root, fun bottomUp => ⟨toured_nodes hd, fun pointer v hm => ?_⟩⟩
  obtain ⟨p, hp, rfl⟩ := (mem_nodes_iff bottomUp hd).mp hm
  constructor
  case left => exact fun hn => at?_ofPath (hs.follow hp) hn hp
  case right =>
    intro hslash
    rw [Pointer.eq_of_ofPath_eq_slash hslash, follow?_cons, ← member?_eq_atSlot?] at hp
    simpa using hp

-- Names that are escaped, that look like conditions and positions, and that are empty.
def oddNames : Json :=
  .obj [("a/b", .arr [.null, .obj [("-", .bool true)]]), ("x==1", "y"), ("", .obj [("0", .null)])]

theorem distinct_oddNames : oddNames.Distinct := by
  simp [oddNames, Distinct, DistinctMembers, DistinctItems, Dict.keys]

theorem short_oddNames : oddNames.Short := fun items h => by
  simp [oddNames, parts, partsOfMembers, partsOfItems] at h
  simp [h]

theorem nodes_toured_oddNames : oddNames.Distinct ∧ oddNames.Short ∧ (oddNames.nodes true).Perm (oddNames.nodes false) ∧
    Toured true oddNames (oddNames.nodes true) ∧ oddNames.at? "/a~1b/1/-" = some (.bool true) ∧
      oddNames.member? "" = some (.obj [("0", .null)]) := by
  have ⟨hperm, hwalk⟩ := nodes_toured distinct_oddNames short_oddNames
  have hdash : ("/a~1b/1/-", .bool true) ∈ oddNames.nodes true :=
    (mem_nodes_iff true distinct_oddNames).mpr ⟨[.member "a/b", .item 1, .member "-"], rfl, by decide⟩
  have hslash : ("/", .obj [("0", .null)]) ∈ oddNames.nodes true :=
    (mem_nodes_iff true distinct_oddNames).mpr ⟨[.member ""], rfl, by decide⟩
  exact ⟨distinct_oddNames, short_oddNames, hperm, (hwalk true).1, ((hwalk true).2 _ _ hdash).1 (by decide),
    ((hwalk true).2 _ _ hslash).2 rfl⟩

end Json

end FormModel
