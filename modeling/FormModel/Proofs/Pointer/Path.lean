import FormModel.Pointer.Traversal
import FormModel.Proofs.Pointer.Text
import FormModel.Pointer.Lookup
import Mathlib.Tactic.IntervalCases

/-!
Paths of places: which member or which item to go to at each step, with nothing left to be read into it.
Every node of a value is at the end of exactly one path, and the pointer with which a walk comes to a
node is its path, written.
-/

namespace FormModel

-- How a place is named in a pointer.
def Slot.token : Slot → String
  | .item i => toString i
  | .member name => name

-- Whether a place is one of arrays.
def Slot.isItem : Slot → Bool
  | .item _ => true
  | .member _ => false

-- Whether the tokens of a place cannot be taken for one of another kind: positions have 64 bits, and
-- names do not look like positions.
def Slot.Plain : Slot → Prop
  | .item i => i < 2 ^ 64
  | .member name => Pointer.isIndexToken name = false

-- Whether the token of a place of an array is read as its position.
def Slot.Bounded : Slot → Prop
  | .item i => i < 2 ^ 64
  | .member _ => True

theorem Slot.Plain.bounded {slot : Slot} (h : slot.Plain) : slot.Bounded := by
  cases slot
  case item => exact h
  case member => trivial

-- The places gone through from the root.
abbrev Path := List Slot

-- The pointer to the end of a path.
def Pointer.ofPath (path : Path) : String := compile (path.map Slot.token)

namespace Pointer

theorem head?_toDigits {n : Nat} (h : 0 < n) : (Nat.toDigits 10 n).head? ≠ some '0' := by
  rw [Nat.toDigits_eq_if (by decide)]
  split
  case isTrue hn => interval_cases n <;> decide
  case isFalse hn =>
    rw [List.head?_append_of_ne_nil _ Nat.toDigits_ne_nil]
    exact head?_toDigits (by omega)

theorem index?_toString {i : Nat} (h : i < 2 ^ 64) : index? (toString i) = some i := by
  rw [Nat.toString_eq_repr]
  have hd : (Nat.toDigits 10 i).all Char.isDigit = true :=
    List.all_eq_true.mpr fun _ => Nat.isDigit_of_mem_toDigits (by decide) (by decide)
  have hv : (Nat.toDigits 10 i).foldl (fun n c => n * 10 + (c.toNat - '0'.toNat)) 0 = i := by
    simpa only [Nat.ofDigitChars, Nat.mul_comm 10] using Nat.ofDigitChars_ten_toDigits (n := i)
  have hz : ((Nat.toDigits 10 i).length > 1 && (Nat.toDigits 10 i).head? == some '0') = false := by
    rcases Nat.eq_zero_or_pos i with rfl | hi
    case inl => decide
    case inr => rw [beq_false_of_ne (head?_toDigits hi), Bool.and_false]
  simp only [index?, Nat.toList_repr, hd, hv, hz]
  simpa using h

theorem digit_bounds {c : Char} (h : c.isDigit) : 48 ≤ c.toNat ∧ c.toNat ≤ 57 := by
  simpa [Char.isDigit, UInt32.le_iff_toNat_le] using h

theorem toDigits_digit {c : Char} (h : c.isDigit) : Nat.toDigits 10 (c.toNat - '0'.toNat) = [c] := by
  have ⟨hl, hu⟩ := digit_bounds h
  rw [← Char.ofNat_toNat c]
  interval_cases c.toNat <;> rfl

-- A digit after those of a number other than zero is one of its digits.
theorem toDigits_append_digits {cs : List Char} {n : Nat} (hn : 0 < n) (h : ∀ c ∈ cs, c.isDigit) :
    Nat.toDigits 10 n ++ cs = Nat.toDigits 10 (Nat.ofDigitChars 10 cs n) := by
  induction cs generalizing n
  case nil => simp
  case cons c cs hi =>
    have ⟨hc, h⟩ := List.forall_mem_cons.mp h
    have hlt : c.toNat - '0'.toNat < 10 := by
      have := digit_bounds hc
      simp only [Char.reduceToNat]
      omega
    have hlast := Nat.toDigits_append_toDigits (by decide) hn hlt
    rw [toDigits_digit hc] at hlast
    rw [Nat.ofDigitChars_cons, ← hi (by omega) h, ← hlast, List.append_assoc, List.singleton_append]

theorem toDigits_ofDigitChars {cs : List Char} (h : ∀ c ∈ cs, c.isDigit) (hn : cs ≠ [])
    (hz : 1 < cs.length → cs.head? ≠ some '0') : Nat.toDigits 10 (Nat.ofDigitChars 10 cs 0) = cs := by
  obtain ⟨c, cs, rfl⟩ := List.exists_cons_of_ne_nil hn
  have ⟨hc, h⟩ := List.forall_mem_cons.mp h
  rw [Nat.ofDigitChars_cons, Nat.mul_zero, Nat.zero_add]
  cases cs
  case nil => exact toDigits_digit hc
  case cons d cs =>
    have hpos : 0 < c.toNat - '0'.toNat := by
      refine Nat.pos_of_ne_zero fun he => hz (by simp) ?_
      have hd := toDigits_digit hc
      rw [he] at hd
      exact congrArg some (List.cons.inj hd).1.symm
    rw [← toDigits_append_digits hpos h, toDigits_digit hc, List.singleton_append]

-- A position is written with the token it has been read from.
theorem toString_of_index? {token : String} {i : Nat} (h : index? token = some i) : toString i = token := by
  simp only [index?] at h
  split at h
  case isTrue => contradiction
  case isFalse hd =>
    split at h
    case isTrue => contradiction
    case isFalse hz =>
      split at h
      case isFalse => contradiction
      case isTrue =>
        have hv : Nat.ofDigitChars 10 token.toList 0 = i := by
          simpa only [Nat.ofDigitChars, Nat.mul_comm 10] using Option.some.inj h
        simp only [Bool.or_eq_true, Bool.not_eq_true', not_or, Bool.not_eq_false, List.isEmpty_iff, List.all_eq_true] at hd
        have hz : 1 < token.toList.length → token.toList.head? ≠ some '0' := by simpa using hz
        rw [Nat.toString_eq_repr, Nat.repr_eq_ofList_toDigits, ← hv, toDigits_ofDigitChars hd.2 hd.1 hz, String.ofList_toList]

-- Only the member of the root with no name is placed where the root is read.
theorem eq_of_ofPath_eq_slash {p : Path} (h : ofPath p = "/") : p = [.member ""] := by
  have ht : p.map Slot.token = [""] := compile_injective h
  obtain ⟨slot, rfl, hs⟩ := List.map_eq_singleton_iff.mp ht
  cases slot
  case item => exact absurd hs Nat.repr_ne_empty
  case member name => rw [Slot.token] at hs; rw [hs]

theorem ofPath_concat {path : Path} {name : String} :
    ofPath (path ++ [.member name]) = child (ofPath path) name := by
  rw [ofPath, List.map_append, List.map_singleton, Slot.token, compile_concat, ofPath]

theorem ofPath_concat_item {path : Path} {i : Nat} :
    ofPath (path ++ [.item i]) = ofPath path ++ "/" ++ toString i := by
  rw [ofPath, List.map_append, List.map_singleton, Slot.token, compile_concat_index, ofPath]

theorem isIndexToken_toString {i : Nat} (h : i < 2 ^ 64) : isIndexToken (toString i) = true := by
  rw [isIndexToken, index?_toString h, Option.isSome_some, Bool.or_true]

theorem toString_ne_dash {i : Nat} : toString i ≠ "-" := by
  intro h
  have hm : '-' ∈ Nat.toDigits 10 i := by
    rw [← Nat.toList_repr, ← Nat.toString_eq_repr, h]
    decide
  exact absurd (Nat.isDigit_of_mem_toDigits (by decide) (by decide) hm) (by decide)

end Pointer

namespace Json

mutual
-- No member has a name that looks like a position, and all positions have 64 bits.
def Plain : Json → Prop
  | .arr items => items.length ≤ 2 ^ 64 ∧ PlainItems items
  | .obj members => PlainMembers members
  | _ => True

-- Every item is free of names that look like positions.
def PlainItems : List Json → Prop
  | [] => True
  | j :: rest => j.Plain ∧ PlainItems rest

-- Every member is free of names that look like positions.
def PlainMembers : List (String × Json) → Prop
  | [] => True
  | (key, j) :: rest => Pointer.isIndexToken key = false ∧ j.Plain ∧ PlainMembers rest
end

-- The value at the end of a path.
def follow? (j : Json) : Path → Option Json
  | [] => some j
  | slot :: rest => (j.atSlot? slot).bind (follow? · rest)

variable {j u v : Json} {p q : Path} {slot : Slot} {tokens : Tokens} {bottomUp : Bool}

@[simp]
theorem follow?_nil : j.follow? [] = some j := rfl

@[simp]
theorem follow?_cons : j.follow? (slot :: p) = (j.atSlot? slot).bind (follow? · p) := rfl

theorem follow?_append : j.follow? (p ++ q) = (j.follow? p).bind (follow? · q) := by
  induction p generalizing j
  case nil => rfl
  case cons slot p hi =>
    cases h : j.atSlot? slot <;> simp [h, hi]

theorem atSlot?_of_not_isContainer (h : j.isContainer = false) : j.atSlot? slot = none := by
  cases j <;> cases slot <;> simp_all [isContainer, atSlot?]

-- What stands below a scalar is nothing.
theorem follow?_of_not_isContainer (h : j.isContainer = false) (hp : p ≠ []) : j.follow? p = none := by
  cases p
  case nil => contradiction
  case cons => simp [atSlot?_of_not_isContainer h]

-- Below nothing there is nothing, as there is below `null`.
theorem getD_follow?_cons :
    (j.follow? (slot :: p)).getD .null = (((j.atSlot? slot).getD .null).follow? p).getD .null := by
  rw [follow?_cons]
  cases j.atSlot? slot
  case some => rfl
  case none => cases p <;> rfl

-- What is known of one step down is known of every step on a path, and what is kept by it holds at the end.
theorem forall_mem_of_follow? {P : Json → Prop} {Q : Slot → Prop}
    (hstep : ∀ {j slot v}, P j → j.atSlot? slot = some v → Q slot ∧ P v) (h : P j) (hp : j.follow? p = some v) :
    (∀ slot ∈ p, Q slot) ∧ P v := by
  induction p generalizing j
  case nil => exact ⟨by simp, Option.some.inj hp ▸ h⟩
  case cons slot p hi =>
    obtain ⟨u, hu, hp⟩ := Option.bind_eq_some_iff.mp hp
    have ⟨hs, hu⟩ := hstep h hu
    have ⟨hp, hv⟩ := hi hu hp
    exact ⟨List.forall_mem_cons.mpr ⟨hs, hp⟩, hv⟩

theorem distinctItems_iff {items : List Json} : DistinctItems items ↔ ∀ j ∈ items, j.Distinct := by
  induction items <;> simp_all [DistinctItems]

theorem distinctMembers_iff {members : List (String × Json)} :
    DistinctMembers members ↔ ∀ e ∈ members, e.2.Distinct := by
  induction members <;> simp_all [DistinctMembers]

theorem Distinct.atSlot (h : j.Distinct) (hs : j.atSlot? slot = some v) : v.Distinct := by
  cases j <;> cases slot <;> simp [atSlot?] at hs
  case arr.item items i => exact distinctItems_iff.mp h v (List.mem_of_getElem? hs)
  case obj.member members name => exact distinctMembers_iff.mp h.2 _ (Dict.mem_of_get? hs)

theorem Distinct.follow (hd : j.Distinct) (h : j.follow? p = some v) : v.Distinct :=
  (forall_mem_of_follow? (Q := fun _ => True) (fun hd hs => ⟨trivial, hd.atSlot hs⟩) hd h).2

theorem plainItems_iff {items : List Json} : PlainItems items ↔ ∀ j ∈ items, j.Plain := by
  induction items <;> simp_all [PlainItems]

theorem plainMembers_iff {members : List (String × Json)} : PlainMembers members ↔
    ∀ e ∈ members, Pointer.isIndexToken e.1 = false ∧ e.2.Plain := by
  induction members <;> simp_all [PlainMembers, and_assoc]

theorem Plain.atSlot (h : j.Plain) (hs : j.atSlot? slot = some v) : slot.Plain ∧ v.Plain := by
  cases j <;> cases slot <;> simp [atSlot?] at hs
  case arr.item items i =>
    have hi := (List.getElem?_eq_some_iff.mp hs).1
    exact ⟨Nat.lt_of_lt_of_le hi h.1, plainItems_iff.mp h.2 v (List.mem_of_getElem? hs)⟩
  case obj.member members name => exact plainMembers_iff.mp h _ (Dict.mem_of_get? hs)

theorem Plain.follow (h : j.Plain) (hp : j.follow? p = some v) : ∀ slot ∈ p, slot.Plain :=
  (forall_mem_of_follow? Plain.atSlot h hp).1

theorem mem_nodesFrom_iff_of_not_isContainer (h : j.isContainer = false) {e : String × Json}
    {pointer : String} : e ∈ nodesFrom bottomUp pointer j ↔ e = (pointer, j) := by
  cases j <;> simp_all [isContainer, nodesFrom]

theorem mem_nodesFrom_arr {items : List Json} {e : String × Json} {pointer : String} :
    e ∈ nodesFrom bottomUp pointer (.arr items) ↔
      e = (pointer, .arr items) ∨ e ∈ nodesOfItems bottomUp pointer 0 items := by
  cases bottomUp <;> simp [nodesFrom, or_comm]

theorem mem_nodesFrom_obj {members : List (String × Json)} {e : String × Json} {pointer : String} :
    e ∈ nodesFrom bottomUp pointer (.obj members) ↔
      e = (pointer, .obj members) ∨ e ∈ nodesOfMembers bottomUp pointer members := by
  cases bottomUp <;> simp [nodesFrom, or_comm]

-- The walk starts below tokens already gone through; each node it comes to stands under these, followed
-- by those of its path from there.
mutual
theorem mem_nodesFrom_iff (tokens : Tokens) {pointer : String} : (j : Json) → j.Distinct →
    ((pointer, v) ∈ nodesFrom bottomUp (Pointer.compile tokens) j ↔
      ∃ p, j.follow? p = some v ∧ pointer = Pointer.compile (tokens ++ p.map Slot.token))
  | .arr items, h => by
    rw [mem_nodesFrom_arr, mem_nodesOfItems_iff tokens items h]
    constructor
    case mp =>
      rintro (he | ⟨k, p, hp, rfl⟩)
      · exact ⟨[], by simp_all⟩
      · exact ⟨.item k :: p, hp, by simp [Slot.token]⟩
    case mpr =>
      rintro ⟨_ | ⟨slot, p⟩, hp, rfl⟩
      · exact .inl (by simp_all)
      · cases slot
        case item k => exact .inr ⟨k, p, hp, by simp [Slot.token]⟩
        case member => simp [atSlot?] at hp
  | .obj members, h => by
    rw [mem_nodesFrom_obj, mem_nodesOfMembers_iff tokens members h.2]
    constructor
    case mp =>
      rintro (he | ⟨name, u, p, hm, hp, rfl⟩)
      · exact ⟨[], by simp_all⟩
      · exact ⟨.member name :: p, by simp [atSlot?, Dict.get?_of_mem h.1 hm, hp], by simp [Slot.token]⟩
    case mpr =>
      rintro ⟨_ | ⟨slot, p⟩, hp, rfl⟩
      · exact .inl (by simp_all)
      · cases slot
        case item => simp [atSlot?] at hp
        case member name =>
          obtain ⟨u, hu, hp⟩ := Option.bind_eq_some_iff.mp hp
          exact .inr ⟨name, u, p, Dict.mem_of_get? hu, hp, by simp [Slot.token]⟩
  | .null, _ | .bool _, _ | .num _, _ | .str _, _ => by
    rw [mem_nodesFrom_iff_of_not_isContainer rfl]
    constructor
    case mp => exact fun he => ⟨[], by simp_all⟩
    case mpr =>
      rintro ⟨p, hp, rfl⟩
      cases p <;> simp_all [atSlot?]

theorem mem_nodesOfItems_iff (tokens : Tokens) {i : Nat} {pointer : String} : (items : List Json) →
    DistinctItems items →
    ((pointer, v) ∈ nodesOfItems bottomUp (Pointer.compile tokens) i items ↔
      ∃ k p, (items[k]?).bind (follow? · p) = some v ∧
        pointer = Pointer.compile (tokens ++ toString (i + k) :: p.map Slot.token))
  | [], _ => by simp [nodesOfItems]
  | j :: rest, h => by
    rw [nodesOfItems, ← Pointer.compile_concat_index, List.mem_append, mem_nodesFrom_iff _ j h.1,
      mem_nodesOfItems_iff tokens rest h.2]
    constructor
    case mp =>
      rintro (⟨p, hp, rfl⟩ | ⟨k, p, hp, rfl⟩)
      · exact ⟨0, p, by simpa using hp, by simp⟩
      · exact ⟨k + 1, p, by simpa using hp, by rw [Nat.add_right_comm, Nat.add_assoc]⟩
    case mpr =>
      rintro ⟨_ | k, p, hp, rfl⟩
      · exact .inl ⟨p, by simpa using hp, by simp⟩
      · exact .inr ⟨k, p, by simpa using hp, by rw [Nat.add_right_comm, Nat.add_assoc]⟩

theorem mem_nodesOfMembers_iff (tokens : Tokens) {pointer : String} : (members : List (String × Json)) →
    DistinctMembers members →
    ((pointer, v) ∈ nodesOfMembers bottomUp (Pointer.compile tokens) members ↔
      ∃ name u p, (name, u) ∈ members ∧ u.follow? p = some v ∧
        pointer = Pointer.compile (tokens ++ name :: p.map Slot.token))
  | [], _ => by simp [nodesOfMembers]
  | (key, j) :: rest, h => by
    rw [nodesOfMembers, ← Pointer.compile_concat, List.mem_append, mem_nodesFrom_iff _ j h.1,
      mem_nodesOfMembers_iff tokens rest h.2]
    constructor
    case mp =>
      rintro (⟨p, hp, rfl⟩ | ⟨name, u, p, hm, hp, rfl⟩)
      · exact ⟨key, j, p, List.mem_cons_self, hp, by simp⟩
      · exact ⟨name, u, p, List.mem_cons_of_mem _ hm, hp, rfl⟩
    case mpr =>
      rintro ⟨name, u, p, hm, hp, rfl⟩
      cases hm
      case head => exact .inl ⟨p, hp, by simp⟩
      case tail hm => exact .inr ⟨name, u, p, hm, hp, rfl⟩
end

theorem mem_nodes_iff (bottomUp : Bool) (h : j.Distinct) {pointer : String} :
    (pointer, v) ∈ j.nodes bottomUp ↔ ∃ p, j.follow? p = some v ∧ pointer = Pointer.ofPath p :=
  mem_nodesFrom_iff [] j h

theorem step?_item {items : List Json} {token : String} {i : Nat} (ht : token ≠ "-") (hi : Pointer.index? token = some i)
    (h : items[i]? = some v) : (Json.arr items).step? token = some v := by
  obtain ⟨hl, rfl⟩ := List.getElem?_eq_some_iff.mp h
  simp [step?, Pointer.slot?, ht, hi, hl, atSlot?]

theorem step?_member {members : Dict Json} {name : String} (h : members.get? name = some v) :
    (Json.obj members).step? name = some v := by
  simp [step?, Pointer.slot?, Pointer.memberName?, Dict.has, h, atSlot?]

theorem step?_token (hp : slot.Bounded) (h : j.atSlot? slot = some v) : j.step? slot.token = some v := by
  cases j <;> cases slot <;> simp [atSlot?] at h
  case arr.item items i => exact step?_item Pointer.toString_ne_dash (Pointer.index?_toString hp) h
  case obj.member members name => exact step?_member h

theorem getTokens?_path_of_bounded (hp : ∀ slot ∈ p, slot.Bounded) (h : j.follow? p = some v) :
    j.getTokens? (p.map Slot.token) = some v := by
  induction p generalizing j
  case nil => exact h
  case cons slot p hi =>
    have ⟨hs, hp⟩ := List.forall_mem_cons.mp hp
    obtain ⟨u, hu, h⟩ := Option.bind_eq_some_iff.mp h
    rw [List.map_cons, getTokens?, step?_token hs hu]
    exact hi hp h

theorem getTokens?_path (hp : ∀ slot ∈ p, slot.Plain) (h : j.follow? p = some v) :
    j.getTokens? (p.map Slot.token) = some v :=
  getTokens?_path_of_bounded (fun slot hm => (hp slot hm).bounded) h

end Json

theorem Slot.eq_item_of_token {i k : Nat} (h : (Slot.item i).token = (Slot.item k).token) : i = k := by
  have hd := congrArg (fun token => Nat.ofDigitChars 10 (String.toList token) 0) h
  simpa only [Slot.token, Nat.toString_eq_repr, Nat.toList_repr, Nat.ofDigitChars_ten_toDigits] using hd

-- Two paths that are written alike do not both lead somewhere, unless they are the same.
theorem Json.eq_of_follow? {j u v : Json} {p q : Path} (hp : j.follow? p = some u) (hq : j.follow? q = some v)
    (ht : p.map Slot.token = q.map Slot.token) : p = q := by
  induction p generalizing j q
  case nil => exact (List.map_eq_nil_iff.mp ht.symm).symm
  case cons slot p hi =>
    cases q
    case nil => contradiction
    case cons slot' q =>
      obtain ⟨w, hw, hp⟩ := Option.bind_eq_some_iff.mp hp
      obtain ⟨w', hw', hq⟩ := Option.bind_eq_some_iff.mp hq
      have ⟨hs, ht'⟩ := List.cons.inj ht
      obtain rfl : slot = slot' := by
        cases j <;> cases slot <;> cases slot' <;> try contradiction
        case arr.item.item => rw [Slot.eq_item_of_token hs]
        case obj.member.member => exact congrArg Slot.member hs
      obtain rfl := Option.some.inj (hw.symm.trans hw')
      rw [hi hp hq ht']

end FormModel
