import FormModel.Proofs.Build.Calls
import FormModel.Proofs.Json.Parts
import FormModel.Proofs.Unseen
import FormModel.Proofs.Pointer.Canonical

/-!
What the calls for a place make smaller.  Inside a place there is less of the data, or no data and less
of the schema; only for a new entry of the library may there be more of the schema again.
-/

namespace FormModel

namespace Json

variable {j v : Json} {slot : Slot} {name : String} {i : Nat}

-- How much data there is; a value that is missing is none.
def weight (j : Json) : Nat := if j.isNull then 0 else j.size

theorem weight_null : null.weight = 0 := rfl

theorem weight_le_size : j.weight ≤ j.size := by
  unfold weight
  split <;> omega

theorem weight_lt_of_atSlot? (h : j.atSlot? slot = some v) : v.weight < j.weight := by
  have hs := size_lt_of_atSlot? h
  have hn : j.isNull = false := by cases j <;> simp_all [atSlot?, isNull]
  exact Nat.lt_of_le_of_lt weight_le_size (by rwa [weight, hn])

-- What is at a place of the data is less than the data, or both are missing.
theorem weight_getD_atSlot? : ((j.atSlot? slot).getD .null).weight < j.weight ∨
    ((j.atSlot? slot).getD .null).weight = 0 ∧ j.weight = 0 := by
  cases h : j.atSlot? slot
  case some v => exact .inl (weight_lt_of_atSlot? h)
  case none =>
    rcases Nat.eq_zero_or_pos j.weight with hj | hj
    · exact .inr ⟨rfl, hj⟩
    · exact .inl hj

theorem getElem?_items? : (j.items?.getD [])[i]? = j.atSlot? (.item i) := by
  cases j <;> simp [items?, atSlot?]

end Json

namespace Builder

open Pointer (Canonical)

variable {root schema : Json} {c c' e : Context} {site child start : Site} {levels : Nat} {keys : List String}
  {p key name place : String} {tuple : List Json} {i : Nat}

-- How much of the schema there is at a place of it.
def rank (root : Json) (p : String) : Nat := ((root.at? p).map fun j => j.depth + 1).getD 0

theorem rank_le : rank root p ≤ root.depth + 1 := by
  unfold rank
  cases h : root.at? p
  case none => exact Nat.zero_le _
  case some v =>
    have ⟨_, _, h⟩ := Option.bind_eq_some_iff.mp h
    exact Nat.succ_le_succ (Json.depth_le_of_getTokens? h)

theorem rank_pos (h : root.at? p = some schema) : 0 < rank root p := by
  rw [rank, h]
  exact Nat.succ_pos _

theorem rank_child (hp : Canonical p) (hk : key ≠ "" ∨ p ≠ "") :
    rank root (Pointer.child p key) ≤ rank root p - 1 := by
  rw [rank, Json.at?_child hp hk, rank]
  cases root.at? p
  case none => exact Nat.le_refl _
  case some j =>
    cases h : j.step? key
    case none => simp [h]
    case some v => simpa [h] using Nat.succ_le_of_lt (Json.depth_lt_of_step? h)

-- A place of the schema inside another one.
def Below (root : Json) (p place : String) : Prop := Canonical place ∧ rank root place < rank root p

theorem below_child (hp : Canonical p) (hs : root.at? p = some schema) (hk : key ≠ "") :
    Below root p (Pointer.child p key) := by
  have hr := rank_pos hs
  have hc : rank root _ ≤ _ := rank_child hp (.inl hk)
  exact ⟨Pointer.canonical_child hp (.inl hk), by omega⟩

theorem below_child_child {outer : String} (hp : Canonical p) (hs : root.at? p = some schema)
    (hk : outer ≠ "") : Below root p (Pointer.child (Pointer.child p outer) key) := by
  have ⟨hc, hr⟩ := below_child hp hs hk
  have hn : key ≠ "" ∨ Pointer.child p outer ≠ "" := .inr Pointer.child_ne_empty
  have hr' : rank root _ ≤ _ := rank_child hc hn
  exact ⟨Pointer.canonical_child hc hn, by omega⟩

theorem below_property (hp : Canonical site.schemaPointer) (hs : root.at? site.schemaPointer = some schema)
    (h : propertySite? (schemaNode schema) site name = some child) :
    Below root site.schemaPointer child.schemaPointer ∧
      child.data = (site.data.atSlot? (.member name)).getD .null := by
  have ⟨place, hplace, hc⟩ := Option.map_eq_some_iff.mp h
  subst hc
  refine ⟨?_, by rw [← Json.member?_eq_atSlot?]⟩
  split at hplace
  case isTrue =>
    rw [← Option.some.inj hplace, Pointer.append_eq_child_child "properties" (by decide)]
    exact below_child_child hp hs (by decide)
  case isFalse =>
    have hplace := (Option.ite_none_right_eq_some.mp hplace).2
    rw [← Option.some.inj hplace, Pointer.append_eq_child "additionalProperties" (by decide)]
    exact below_child hp hs (by decide)

theorem below_slot (hp : Canonical p) (hs : root.at? p = some schema) :
    Below root p (p ++ "/items/" ++ toString i) := by
  rw [← Pointer.escape_toString, Pointer.append_eq_child_child "items" (by decide)]
  exact below_child_child hp hs (by decide)

theorem below_items {maxItems : Nat} (hp : Canonical site.schemaPointer)
    (hs : root.at? site.schemaPointer = some schema)
    (h : itemsSchema? (schemaNode schema) site maxItems = some place) :
    Below root site.schemaPointer place := by
  unfold itemsSchema? at h
  split at h
  case h_1 =>
    rw [← Option.some.inj (Option.ite_none_right_eq_some.mp h).2,
      Pointer.append_eq_child "additionalItems" (by decide)]
    exact below_child hp hs (by decide)
  case h_2 =>
    rw [← Option.some.inj h, Pointer.append_eq_child "items" (by decide)]
    exact below_child hp hs (by decide)
  case h_3 => contradiction

theorem canonical_itemsPlace (hp : Canonical p) : Canonical (itemsPlace c p) := by
  unfold itemsPlace
  cases h : Pointer.fold? c.schemaRefs [] p
  case none => exact hp
  case some => exact Pointer.canonical_fold? h

theorem canonical_of_referredPlace? (h : referredPlace? schema = some p) : Canonical p := by
  have ⟨_, _, h⟩ := Option.bind_eq_some_iff.mp h
  exact Pointer.canonical_of_map_compile (Option.ite_none_right_eq_some.mp h).2

-- A place that is entered has less of the data, or no data as the place around it and less of the schema.
theorem Enters.decreases (h : Enters root c site child) (hp : Canonical site.schemaPointer) :
    Canonical child.schemaPointer ∧ (child.data.weight < site.data.weight ∨
      child.data.weight = 0 ∧ site.data.weight = 0 ∧
        rank root child.schemaPointer < rank root site.schemaPointer) := by
  cases h
  case property hs hc =>
    have ⟨hb, hd⟩ := below_property hp hs hc
    refine ⟨hb.1, ?_⟩
    rw [hd]
    exact Json.weight_getD_atSlot?.imp_right fun hw => ⟨hw.1, hw.2, hb.2⟩
  case referred hs hc _ ht hn =>
    have ⟨_, hd⟩ := below_property hp hs hc
    refine ⟨canonical_of_referredPlace? ht, .inl ?_⟩
    dsimp only
    rw [hd] at hn ⊢
    cases hv : site.data.atSlot? (.member _) <;> rw [hv] at hn
    case none => contradiction
    case some => exact Json.weight_lt_of_atSlot? hv
  case slot i hs _ _ =>
    have hb := below_slot (i := i) hp hs
    refine ⟨hb.1, ?_⟩
    simp only [itemSite, List.getD_eq_getElem?_getD, Json.getElem?_items?]
    exact Json.weight_getD_atSlot?.imp_right fun hw => ⟨hw.1, hw.2, hb.2⟩
  case item hs hi hl =>
    refine ⟨canonical_itemsPlace (below_items hp hs hi).1, .inl ?_⟩
    have ⟨v, hv⟩ : ∃ v, (site.data.items?.getD [])[_]? = some v := ⟨_, List.getElem?_eq_getElem hl⟩
    simp only [itemSite, List.getD_eq_getElem?_getD, hv, Option.getD_some]
    exact Json.weight_lt_of_atSlot? (Json.getElem?_items? ▸ hv)

theorem Opens.canonical (h : Opens root c site child) (hp : Canonical site.schemaPointer) :
    Canonical child.schemaPointer ∧ child.data = .null := by
  cases h
  case reference _ _ ht _ => exact ⟨canonical_of_referredPlace? ht, rfl⟩
  case slot hs _ _ => exact ⟨(below_slot hp hs).1, rfl⟩
  case items hs _ hi => exact ⟨canonical_itemsPlace (below_items hp hs hi).1, rfl⟩

-- How many of some keys are not in the library yet.
def openKeys (keys : List String) (c : Context) : Nat := unseen (Dict.has c.library) keys

theorem openKeys_le (h : c.GrowsTo c') : openKeys keys c' ≤ openKeys keys c := unseen_le h.library

-- What every call makes smaller: first the number of open keys, then the data, then the schema.
def measure (root : Json) (keys : List String) (bound : Nat) (site : Site) (c : Context) : Nat :=
  (openKeys keys c * (bound + 1) + site.data.weight) * (root.depth + 2) + rank root site.schemaPointer

theorem measure_lt {bound : Nat} (hw : child.data.weight ≤ bound)
    (h : openKeys keys c' < openKeys keys c ∨ openKeys keys c' ≤ openKeys keys c ∧
      (child.data.weight < site.data.weight ∨ child.data.weight = 0 ∧ site.data.weight = 0 ∧
        rank root child.schemaPointer < rank root site.schemaPointer)) :
    measure root keys bound child c' < measure root keys bound site c := by
  have hr : rank root child.schemaPointer ≤ root.depth + 1 := rank_le
  have hstep : ∀ {a b : Nat}, a < b → a * (root.depth + 2) + (root.depth + 2) ≤ b * (root.depth + 2) := by
    intro a b hab
    rw [← Nat.succ_mul]
    exact Nat.mul_le_mul_right _ hab
  unfold measure
  rcases h with ho | ⟨ho, hd | ⟨hc, hs, hlt⟩⟩
  · have hm := Nat.mul_le_mul_right (bound + 1) (Nat.succ_le_of_lt ho)
    rw [Nat.succ_mul] at hm
    have := hstep (show openKeys keys c' * (bound + 1) + child.data.weight <
      openKeys keys c * (bound + 1) + site.data.weight by omega)
    omega
  · have hm := Nat.mul_le_mul_right (bound + 1) ho
    have := hstep (show openKeys keys c' * (bound + 1) + child.data.weight <
      openKeys keys c * (bound + 1) + site.data.weight by omega)
    omega
  · have hm := Nat.mul_le_mul_right (root.depth + 2) (Nat.mul_le_mul_right (bound + 1) ho)
    simp only [hc, hs, Nat.add_zero]
    omega

theorem measure_le {bound count : Nat} (hw : site.data.weight ≤ bound) (hk : openKeys keys c ≤ count) :
    measure root keys bound site c < (count + 1) * (bound + 1) * (root.depth + 2) := by
  have hr : rank root site.schemaPointer ≤ root.depth + 1 := rank_le
  have hm := Nat.mul_le_mul_right (bound + 1) hk
  have hb : openKeys keys c * (bound + 1) + site.data.weight + 1 ≤ (count + 1) * (bound + 1) := by
    rw [Nat.succ_mul]
    omega
  have hb := Nat.mul_le_mul_right (root.depth + 2) hb
  rw [Nat.succ_mul] at hb
  unfold measure
  omega

-- An entry that is opened has to be one of the keys, unless there is less of the data or of the schema.
theorem Calls.decreases {bound : Nat} (h : Calls root site c child c') (hp : Canonical site.schemaPointer)
    (hw : site.data.weight ≤ bound)
    (hk : Opens root c site child → Dict.has c'.library child.dataPointer →
      child.dataPointer ∈ keys ∨ 0 < site.data.weight ∨
        rank root child.schemaPointer < rank root site.schemaPointer) :
    Canonical child.schemaPointer ∧ child.data.weight ≤ bound ∧
      measure root keys bound child c' < measure root keys bound site c := by
  cases h
  case enter he hg =>
    have ⟨hc, hd⟩ := he.decreases hp
    have hb : child.data.weight ≤ bound := by omega
    exact ⟨hc, hb, measure_lt hb (.inr ⟨openKeys_le hg, hd⟩)⟩
  case opened ho hno hg hhas =>
    have ⟨hc, hd⟩ := ho.canonical hp
    have hz : child.data.weight = 0 := by rw [hd, Json.weight_null]
    have hb : child.data.weight ≤ bound := by omega
    refine ⟨hc, hb, measure_lt hb ?_⟩
    rcases hk ho hhas with hm | hd | hr
    · exact .inl (unseen_lt hg.library hm hno hhas)
    · exact .inr ⟨openKeys_le hg, .inl (by omega)⟩
    · rcases Nat.eq_zero_or_pos site.data.weight with hs | hs
      · exact .inr ⟨openKeys_le hg, .inr ⟨hz, hs, hr⟩⟩
      · exact .inr ⟨openKeys_le hg, .inl (by omega)⟩

end Builder

end FormModel
