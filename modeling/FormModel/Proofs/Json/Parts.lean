import FormModel.Pointer.Lookup

/-!
The values inside a value: fewer, smaller and less deep than it.
-/

namespace FormModel

namespace Json

variable {j u v w : Json} {slot : Slot} {token name : String} {tokens : Tokens} {items : List Json}
  {members : List (String × Json)}

theorem member?_eq_atSlot? : j.member? name = j.atSlot? (.member name) := by cases j <;> rfl

theorem depth_le_depthItems (h : v ∈ items) : v.depth ≤ depthItems items := by
  induction items
  case nil => contradiction
  case cons u items hi =>
    rw [depthItems]
    cases h
    case head => exact Nat.le_max_left ..
    case tail h => exact Nat.le_trans (hi h) (Nat.le_max_right ..)

theorem depth_le_depthMembers (h : (name, v) ∈ members) :
    v.depth ≤ depthMembers members := by
  induction members
  case nil => contradiction
  case cons e members hi =>
    rw [depthMembers]
    cases h
    case head => exact Nat.le_max_left ..
    case tail h => exact Nat.le_trans (hi h) (Nat.le_max_right ..)

theorem size_le_sizeItems (h : v ∈ items) : v.size ≤ sizeItems items := by
  induction items
  case nil => contradiction
  case cons u items hi =>
    rw [sizeItems]
    cases h
    case head => exact Nat.le_add_right ..
    case tail h => exact Nat.le_trans (hi h) (Nat.le_add_left ..)

theorem size_le_sizeMembers (h : (name, v) ∈ members) :
    v.size ≤ sizeMembers members := by
  induction members
  case nil => contradiction
  case cons e members hi =>
    rw [sizeMembers]
    cases h
    case head => exact Nat.le_add_right ..
    case tail h => exact Nat.le_trans (hi h) (Nat.le_add_left ..)

-- Induction on a value, with the items or the values of the members as what is smaller.
@[elab_as_elim]
theorem inductionInside {motive : Json → Prop} (scalar : ∀ j, j.isContainer = false → motive j)
    (arr : ∀ items, (∀ j ∈ items, motive j) → motive (.arr items))
    (obj : ∀ members, (∀ e ∈ members, motive e.2) → motive (.obj members)) (j : Json) : motive j := by
  induction hn : j.size using Nat.strongRecOn generalizing j
  case ind n hi =>
    subst hn
    cases j
    case arr items => exact arr items fun u hm => hi _ (Nat.lt_succ_of_le (size_le_sizeItems hm)) u rfl
    case obj members => exact obj members fun e hm => hi _ (Nat.lt_succ_of_le (size_le_sizeMembers hm)) e.2 rfl
    all_goals exact scalar _ rfl

theorem depth_lt_of_atSlot? (h : j.atSlot? slot = some v) : v.depth < j.depth := by
  cases j <;> cases slot <;> simp [atSlot?] at h
  case arr.item => exact Nat.lt_succ_of_le (depth_le_depthItems (List.mem_of_getElem? h))
  case obj.member => exact Nat.lt_succ_of_le (depth_le_depthMembers (Dict.mem_of_get? h))

theorem size_lt_of_atSlot? (h : j.atSlot? slot = some v) : v.size < j.size := by
  cases j <;> cases slot <;> simp [atSlot?] at h
  case arr.item => exact Nat.lt_succ_of_le (size_le_sizeItems (List.mem_of_getElem? h))
  case obj.member => exact Nat.lt_succ_of_le (size_le_sizeMembers (Dict.mem_of_get? h))

theorem depth_lt_of_step? (h : j.step? token = some v) : v.depth < j.depth := by
  have ⟨_, _, h⟩ := Option.bind_eq_some_iff.mp h
  exact depth_lt_of_atSlot? h

theorem depth_lt_of_getTokens? (h : j.getTokens? tokens = some v) (ht : tokens ≠ []) : v.depth < j.depth := by
  induction tokens generalizing j
  case nil => contradiction
  case cons token tokens hi =>
    have ⟨_, hu, h⟩ := Option.bind_eq_some_iff.mp h
    by_cases hn : tokens = []
    case pos =>
      subst hn
      exact Option.some.inj h ▸ depth_lt_of_step? hu
    case neg => exact Nat.lt_trans (hi h hn) (depth_lt_of_step? hu)

theorem depth_le_of_getTokens? (h : j.getTokens? tokens = some v) : v.depth ≤ j.depth := by
  by_cases ht : tokens = []
  case pos =>
    subst ht
    exact Option.some.inj h ▸ Nat.le_refl _
  case neg => exact Nat.le_of_lt (depth_lt_of_getTokens? h ht)

mutual
theorem depth_le_size : (j : Json) → j.depth ≤ j.size
  | .arr items => Nat.succ_le_succ (depthItems_le_sizeItems items)
  | .obj members => Nat.succ_le_succ (depthMembers_le_sizeMembers members)
  | .null | .bool _ | .num _ | .str _ => Nat.zero_le _

theorem depthItems_le_sizeItems : (items : List Json) → depthItems items ≤ sizeItems items
  | [] => Nat.le_refl _
  | j :: rest => by
    have hj := depth_le_size j
    have hr := depthItems_le_sizeItems rest
    rw [depthItems, sizeItems]
    omega

theorem depthMembers_le_sizeMembers : (members : List (String × Json)) → depthMembers members ≤ sizeMembers members
  | [] => Nat.le_refl _
  | (_, j) :: rest => by
    have hj := depth_le_size j
    have hr := depthMembers_le_sizeMembers rest
    rw [depthMembers, sizeMembers]
    omega
end

mutual
-- The value and all values inside it.
def parts : Json → List Json
  | .arr items => .arr items :: partsOfItems items
  | .obj members => .obj members :: partsOfMembers members
  | scalar => [scalar]

-- The items and all values inside them.
def partsOfItems : List Json → List Json
  | [] => []
  | j :: rest => parts j ++ partsOfItems rest

-- The values of members and all values inside them.
def partsOfMembers : List (String × Json) → List Json
  | [] => []
  | (_, j) :: rest => parts j ++ partsOfMembers rest
end

mutual
theorem length_parts : (j : Json) → j.parts.length = j.size
  | .arr items => by simp [parts, size, length_partsOfItems items]
  | .obj members => by simp [parts, size, length_partsOfMembers members]
  | .null | .bool _ | .num _ | .str _ => rfl

theorem length_partsOfItems : (items : List Json) → (partsOfItems items).length = sizeItems items
  | [] => rfl
  | j :: rest => by simp [partsOfItems, sizeItems, length_parts j, length_partsOfItems rest]

theorem length_partsOfMembers : (members : List (String × Json)) →
    (partsOfMembers members).length = sizeMembers members
  | [] => rfl
  | (_, j) :: rest => by simp [partsOfMembers, sizeMembers, length_parts j, length_partsOfMembers rest]
end

theorem mem_parts_self : j ∈ j.parts := by cases j <;> simp [parts]

theorem mem_partsOfMembers_iff : w ∈ partsOfMembers members ↔ ∃ e ∈ members, w ∈ e.2.parts := by
  induction members <;> simp_all [partsOfMembers]

theorem mem_partsOfItems_iff : w ∈ partsOfItems items ↔ ∃ v ∈ items, w ∈ v.parts := by
  induction items <;> simp_all [partsOfItems]

theorem mem_parts_of_atSlot? (h : j.atSlot? slot = some v) (hw : w ∈ v.parts) : w ∈ j.parts := by
  cases j <;> cases slot <;> simp [atSlot?] at h
  case arr.item => exact List.mem_cons_of_mem _ (mem_partsOfItems_iff.mpr ⟨_, List.mem_of_getElem? h, hw⟩)
  case obj.member => exact List.mem_cons_of_mem _ (mem_partsOfMembers_iff.mpr ⟨_, Dict.mem_of_get? h, hw⟩)

theorem mem_parts_of_getTokens? (h : j.getTokens? tokens = some v) (hw : w ∈ v.parts) : w ∈ j.parts := by
  induction tokens generalizing j
  case nil => exact Option.some.inj h ▸ hw
  case cons token tokens hi =>
    have ⟨_, hu, h⟩ := Option.bind_eq_some_iff.mp h
    have ⟨_, _, hu⟩ := Option.bind_eq_some_iff.mp hu
    exact mem_parts_of_atSlot? hu (hi h)

end Json

end FormModel
