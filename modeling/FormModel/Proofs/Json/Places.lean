import FormModel.Proofs.Json.Parts
import FormModel.Proofs.Pointer.Path
import Mathlib.Data.List.Infix

/-!
The places of a value in the order in which a walk from the root down comes to them.  An array or object comes before
everything inside it.
-/

namespace FormModel

namespace Json

-- Whether all positions in a value have 64 bits, as those of values in memory do.
def Short (j : Json) : Prop := ∀ items, .arr items ∈ j.parts → items.length ≤ 2 ^ 64

-- A place in a value, seen from what the value is inside of.
def inside (slot : Slot) (e : Path × Json) : Path × Json := (slot :: e.1, e.2)

mutual
-- The value and all values inside it, each with the path to it.
def places : Json → List (Path × Json)
  | .arr items => ([], .arr items) :: placesOfItems 0 items
  | .obj members => ([], .obj members) :: placesOfMembers members
  | scalar => [([], scalar)]

-- The items that start at a position and all values inside them.
def placesOfItems (i : Nat) : List Json → List (Path × Json)
  | [] => []
  | j :: rest => (places j).map (inside (.item i)) ++ placesOfItems (i + 1) rest

-- The values of members and all values inside them.
def placesOfMembers : List (String × Json) → List (Path × Json)
  | [] => []
  | (name, j) :: rest => (places j).map (inside (.member name)) ++ placesOfMembers rest
end

variable {u v : Json} {p q : Path}

-- A place with the pointer that is written for it.
def pointed (p : Path) (e : Path × Json) : String × Json := (Pointer.ofPath (p ++ e.1), e.2)

theorem pointed_inside {slot : Slot} {e : Path × Json} : pointed p (inside slot e) = pointed (p ++ [slot]) e := by
  rw [pointed, pointed, inside, List.append_cons]

mutual
theorem nodesFrom_eq_places (p : Path) : (j : Json) → nodesFrom false (Pointer.ofPath p) j = j.places.map (pointed p)
  | .arr items => by simp [nodesFrom, places, nodesOfItems_eq_places p 0 items, pointed]
  | .obj members => by simp [nodesFrom, places, nodesOfMembers_eq_places p members, pointed]
  | .null | .bool _ | .num _ | .str _ => by simp [nodesFrom, places, pointed]

theorem nodesOfItems_eq_places (p : Path) (i : Nat) : (items : List Json) →
    nodesOfItems false (Pointer.ofPath p) i items = (placesOfItems i items).map (pointed p)
  | [] => rfl
  | j :: rest => by
    rw [nodesOfItems, placesOfItems, ← Pointer.ofPath_concat_item, nodesFrom_eq_places _ j, nodesOfItems_eq_places p (i + 1) rest,
      List.map_append, List.map_map]
    simp only [Function.comp_def, pointed_inside]

theorem nodesOfMembers_eq_places (p : Path) : (members : List (String × Json)) →
    nodesOfMembers false (Pointer.ofPath p) members = (placesOfMembers members).map (pointed p)
  | [] => rfl
  | (name, j) :: rest => by
    rw [nodesOfMembers, placesOfMembers, ← Pointer.ofPath_concat, nodesFrom_eq_places _ j, nodesOfMembers_eq_places p rest,
      List.map_append, List.map_map]
    simp only [Function.comp_def, pointed_inside]
end

theorem nodes_eq_places {j : Json} : j.nodes false = j.places.map fun e => (Pointer.ofPath e.1, e.2) :=
  nodesFrom_eq_places [] j

theorem mem_map_inside {slot : Slot} {places : List (Path × Json)} :
    (p, v) ∈ places.map (inside slot) ↔ ∃ q, p = slot :: q ∧ (q, v) ∈ places := by
  simp only [List.mem_map, inside, Prod.mk.injEq, Prod.exists, existsAndEq, and_true]
  exact ⟨fun ⟨q, h, he⟩ => ⟨q, he.symm, h⟩, fun ⟨q, he, h⟩ => ⟨q, h, he.symm⟩⟩

mutual
theorem mem_places_iff {p : Path} : (j : Json) → j.Distinct → ((p, v) ∈ j.places ↔ j.follow? p = some v)
  | .arr items, h => by
    rw [places, List.mem_cons, mem_placesOfItems_iff items h]
    rcases p with _ | ⟨slot | name, p⟩
    case nil => simp [eq_comm (b := v)]
    all_goals simp [atSlot?]
  | .obj members, h => by
    rw [places, List.mem_cons, mem_placesOfMembers_iff members h.2]
    have hget {name : String} {u : Json} : (name, u) ∈ members ↔ Dict.get? members name = some u :=
      ⟨Dict.get?_of_mem h.1, Dict.mem_of_get?⟩
    rcases p with _ | ⟨slot | name, p⟩
    case nil => simp [eq_comm (b := v)]
    all_goals simp [atSlot?, Option.bind_eq_some_iff, hget]
  | .null, _ | .bool _, _ | .num _, _ | .str _, _ => by
    cases p <;> simp [places, atSlot?, eq_comm (b := v)]

theorem mem_placesOfItems_iff {p : Path} {i : Nat} : (items : List Json) → DistinctItems items →
    ((p, v) ∈ placesOfItems i items ↔ ∃ k q, p = .item (i + k) :: q ∧ (items[k]?).bind (follow? · q) = some v)
  | [], _ => by simp [placesOfItems]
  | j :: rest, h => by
    rw [placesOfItems, List.mem_append, mem_map_inside, mem_placesOfItems_iff rest h.2]
    constructor
    case mp =>
      rintro (⟨q, rfl, hq⟩ | ⟨k, q, rfl, hq⟩)
      · exact ⟨0, q, rfl, (mem_places_iff j h.1).mp hq⟩
      · exact ⟨k + 1, q, by rw [Nat.add_right_comm, Nat.add_assoc], hq⟩
    case mpr =>
      rintro ⟨_ | k, q, rfl, hq⟩
      · exact .inl ⟨q, rfl, (mem_places_iff j h.1).mpr hq⟩
      · exact .inr ⟨k, q, by rw [Nat.add_right_comm, Nat.add_assoc], hq⟩

theorem mem_placesOfMembers_iff {p : Path} : (members : List (String × Json)) → DistinctMembers members →
    ((p, v) ∈ placesOfMembers members ↔
      ∃ name u q, p = .member name :: q ∧ (name, u) ∈ members ∧ u.follow? q = some v)
  | [], _ => by simp [placesOfMembers]
  | (key, j) :: rest, h => by
    rw [placesOfMembers, List.mem_append, mem_map_inside, mem_placesOfMembers_iff rest h.2]
    constructor
    case mp =>
      rintro (⟨q, rfl, hq⟩ | ⟨name, u, q, rfl, hm, hq⟩)
      · exact ⟨key, j, q, rfl, List.mem_cons_self, (mem_places_iff j h.1).mp hq⟩
      · exact ⟨name, u, q, rfl, List.mem_cons_of_mem _ hm, hq⟩
    case mpr =>
      rintro ⟨name, u, q, rfl, hm, hq⟩
      cases hm
      case head => exact .inl ⟨q, rfl, (mem_places_iff j h.1).mpr hq⟩
      case tail hm => exact .inr ⟨name, u, q, rfl, hm, hq⟩
end

-- Nothing comes after what is inside it.
def Preceded (e e' : Path × Json) : Prop := ¬e'.1 <+: e.1

theorem preceded_of_ne {slot slot' : Slot} {e e' : Path × Json} (h : slot ≠ slot') (hp : e.1 = slot :: p)
    (hq : e'.1 = slot' :: q) : Preceded e e' := fun hpre =>
  h (List.cons_prefix_cons.mp (hp ▸ hq ▸ hpre)).1.symm

theorem pairwise_map_inside {slot : Slot} {places : List (Path × Json)} (h : places.Pairwise Preceded) :
    (places.map (inside slot)).Pairwise Preceded :=
  List.pairwise_map.mpr (h.imp fun hn hp => hn (List.cons_prefix_cons.mp hp).2)

theorem pairwise_root (u : Json) {places : List (Path × Json)} (h : places.Pairwise Preceded) (hn : ∀ e ∈ places, e.1 ≠ []) :
    (([], u) :: places).Pairwise Preceded :=
  List.pairwise_cons.mpr ⟨fun e he hp => hn e he (List.prefix_nil.mp hp), h⟩

mutual
theorem pairwise_places : (j : Json) → j.Distinct → j.places.Pairwise Preceded
  | .arr items, h => pairwise_root _ (pairwise_placesOfItems 0 items h) fun e he hn => by
    have ⟨_, _, hp, _⟩ := (mem_placesOfItems_iff items h).mp he
    rw [hn] at hp
    contradiction
  | .obj members, h => pairwise_root _ (pairwise_placesOfMembers members h) fun e he hn => by
    have ⟨_, _, _, hp, _⟩ := (mem_placesOfMembers_iff members h.2).mp he
    rw [hn] at hp
    contradiction
  | .null, _ | .bool _, _ | .num _, _ | .str _, _ => by simp [places]

theorem pairwise_placesOfItems (i : Nat) : (items : List Json) → DistinctItems items →
    (placesOfItems i items).Pairwise Preceded
  | [], _ => by simp [placesOfItems]
  | j :: rest, h => by
    refine List.pairwise_append.mpr ⟨pairwise_map_inside (pairwise_places j h.1), pairwise_placesOfItems (i + 1) rest h.2, ?_⟩
    intro e he e' he'
    have ⟨_, hp, _⟩ := mem_map_inside.mp he
    have ⟨_, _, hp', _⟩ := (mem_placesOfItems_iff rest h.2).mp he'
    exact preceded_of_ne (fun hs => by have := Slot.item.inj hs; omega) hp hp'

theorem pairwise_placesOfMembers : (members : List (String × Json)) → (Json.obj members).Distinct →
    (placesOfMembers members).Pairwise Preceded
  | [], _ => by simp [placesOfMembers]
  | (name, j) :: rest, ⟨hk, hd⟩ => by
    have ⟨hname, hk⟩ := List.nodup_cons.mp hk
    refine List.pairwise_append.mpr ⟨pairwise_map_inside (pairwise_places j hd.1), pairwise_placesOfMembers rest ⟨hk, hd.2⟩, ?_⟩
    intro e he e' he'
    have ⟨_, hp, _⟩ := mem_map_inside.mp he
    have ⟨name', u, _, hp', hm, _⟩ := (mem_placesOfMembers_iff rest hd.2).mp he'
    have hm : name' ∈ Dict.keys rest := List.mem_map_of_mem hm
    refine preceded_of_ne (fun hs => hname ?_) hp hp'
    rwa [← Slot.member.inj hs] at hm
end

theorem Short.atSlot {j : Json} {slot : Slot} (h : j.Short) (hu : j.atSlot? slot = some u) : slot.Bounded ∧ u.Short := by
  refine ⟨?_, fun items hm => h items (mem_parts_of_atSlot? hu hm)⟩
  cases j <;> cases slot <;> simp only [atSlot?, reduceCtorEq] at hu
  case arr.item items i => exact Nat.lt_of_lt_of_le (List.getElem?_eq_some_iff.mp hu).1 (h items mem_parts_self)
  case obj.member => trivial

theorem Short.follow {j : Json} (h : j.Short) (hp : j.follow? p = some v) : ∀ slot ∈ p, slot.Bounded :=
  (forall_mem_of_follow? Short.atSlot h hp).1

section Order

variable {j : Json} {before after : List (Path × Json)} {e e' : Path × Json}

-- What a place is inside of has come before it.
theorem mem_before_of_prefix (h : j.Distinct) (hs : j.places = before ++ e :: after) (hf : j.follow? p = some v)
    (hp : p <+: e.1) (hn : p ≠ e.1) : (p, v) ∈ before := by
  have hm := (mem_places_iff j h).mpr hf
  have hpair := pairwise_places j h
  rw [hs] at hm hpair
  rcases List.mem_append.mp hm with hm | hm
  case inl => exact hm
  case inr =>
    rcases List.mem_cons.mp hm with rfl | hm
    case inl => contradiction
    case inr => exact absurd hp (List.rel_of_pairwise_cons (List.pairwise_append.mp hpair).2.1 hm)

-- What is inside a place comes after it.
theorem not_prefix_of_mem_before (h : j.Distinct) (hs : j.places = before ++ e :: after) (he : e' ∈ before) : ¬e.1 <+: e'.1 :=
  (List.pairwise_append.mp (hs ▸ pairwise_places j h)).2.2 e' he e List.mem_cons_self

end Order

end Json

end FormModel
