import FormModel.Pointer.Update
import FormModel.Proofs.Pointer.Path
import Mathlib.Data.List.Infix

/-!
What a write changes.  A write along the tokens of a path puts the value at the end of the path, turns
nothing on the way into something else, and leaves whatever stands off the path as it was, but for the
`null` it puts in front of a position beyond the end of an array.
-/

namespace FormModel

-- Whether a value has places of this kind.
def Slot.fits : Slot → Json → Bool
  | .item _, j => j.isArr
  | .member _, j => j.isObj

-- Whether a place of this kind can be written in a value: nothing that stands there is in the way.
def Slot.Open (slot : Slot) (j : Json) : Prop := j.isNull ∨ slot.fits j

-- Whether the token of a place leads to it in a value: what is there has such places, or the token asks for it.
def Slot.Taken (slot : Slot) (j : Json) : Prop := j.isNull ∧ slot.Plain ∨ slot.fits j ∧ slot.Bounded

theorem Slot.Taken.open {slot : Slot} {j : Json} (h : slot.Taken j) : slot.Open j := h.imp And.left And.left

theorem Slot.Open.taken {slot : Slot} {j : Json} (h : slot.Open j) (hp : slot.Plain) : slot.Taken j :=
  h.imp (⟨·, hp⟩) (⟨·, hp.bounded⟩)

namespace Json

variable {j u v : Json} {p q s : Path} {slot slot' : Slot} {tokens : Tokens} {f : Json → Json} {name token : String}
  {insert : Bool}

-- The value with another one at a place; where there is nothing yet, the place is made.
def putSlot (j : Json) (slot : Slot) (value : Json) : Json :=
  match slot, if j.isNull then emptyContainer slot.isItem else j with
  | .item i, .arr items => .arr ((padTo items i).set i value)
  | .member name, .obj members => .obj (Dict.insert members name value)
  | _, other => other

-- The value with what is at the end of a path replaced, `null` being there if nothing is.
def amend (j : Json) : Path → (Json → Json) → Json
  | [], f => f j
  | slot :: rest, f => j.putSlot slot (amend ((j.atSlot? slot).getD .null) rest f)

-- Whether all places on a path can be written, one after the other.
def Admits : Json → Path → Prop
  | _, [] => True
  | j, slot :: rest => slot.Open j ∧ ((j.atSlot? slot).getD .null).Admits rest

-- Whether all tokens on a path lead to its places, one after the other.
def Takes : Json → Path → Prop
  | _, [] => True
  | j, slot :: rest => slot.Taken j ∧ ((j.atSlot? slot).getD .null).Takes rest

theorem Takes.admits (h : j.Takes p) : j.Admits p := by
  induction p generalizing j
  case nil => trivial
  case cons slot p hi => exact ⟨h.1.open, hi h.2⟩

theorem Admits.takes (hp : ∀ slot ∈ p, slot.Plain) (h : j.Admits p) : j.Takes p := by
  induction p generalizing j
  case nil => trivial
  case cons slot p hi =>
    have ⟨hs, hp⟩ := List.forall_mem_cons.mp hp
    exact ⟨h.1.taken hs, hi hp h.2⟩

theorem isContainer_of_fits (h : slot.fits j = true) : j.isContainer = true := by
  cases slot <;> cases j <;> simp_all [Slot.fits, isArr, isObj, isContainer]

theorem fits_of_atSlot? (h : j.atSlot? slot = some v) : slot.fits j = true := by
  cases slot <;> cases j <;> simp_all [Slot.fits, atSlot?, isArr, isObj]

theorem fits_of_follow? (h : j.follow? (q ++ slot :: s) = some v) (hu : j.follow? q = some u) :
    slot.fits u = true := by
  rw [follow?_append, hu, Option.bind_some, follow?_cons] at h
  have ⟨_, h, _⟩ := Option.bind_eq_some_iff.mp h
  exact fits_of_atSlot? h

theorem fits_of_kind_eq (h : u.kind = j.kind) : slot.fits u = slot.fits j := by
  cases slot <;> cases u <;> cases j <;> simp_all [Slot.fits, kind, isArr, isObj]

theorem kind_eq_of_fits (h : slot.fits u = true) (hj : slot.fits j = true) : u.kind = j.kind := by
  cases slot <;> cases u <;> cases j <;> simp_all [Slot.fits, kind, isArr, isObj]

theorem Admits.of_forall (h : ∀ q slot s, p = q ++ slot :: s → slot.Open ((j.follow? q).getD .null)) :
    j.Admits p := by
  induction p generalizing j
  case nil => trivial
  case cons slot p hi =>
    refine ⟨h [] slot p rfl, hi fun q slot' s hp => ?_⟩
    have hq := h (slot :: q) slot' s (by rw [hp, List.cons_append])
    rwa [getD_follow?_cons] at hq

theorem Admits.open_of_append (h : j.Admits (q ++ slot :: s)) : slot.Open ((j.follow? q).getD .null) := by
  induction q generalizing j
  case nil => exact h.1
  case cons slot' q hi =>
    rw [getD_follow?_cons]
    exact hi h.2

theorem Admits.append (h : j.Admits p) (hs : ((j.follow? p).getD .null).Admits s) : j.Admits (p ++ s) := by
  induction p generalizing j
  case nil => exact hs
  case cons slot p hi =>
    rw [getD_follow?_cons] at hs
    exact ⟨h.1, hi h.2 hs⟩

theorem length_padTo {items : List Json} {i : Nat} : i < (padTo items i).length := by
  simp only [padTo, List.length_append, List.length_replicate]
  omega

theorem padTo_eq_self {items : List Json} {i : Nat} (h : i < items.length) : padTo items i = items := by
  simp [padTo, show i + 1 - items.length = 0 by omega]

theorem getElem?_padTo (items : List Json) (i k : Nat) :
    (padTo items i)[k]? = items[k]? ∨ items[k]? = none ∧ (padTo items i)[k]? = some .null := by
  rw [padTo, List.getElem?_append]
  split
  case isTrue => exact .inl rfl
  case isFalse h =>
    rw [List.getElem?_replicate]
    split
    case isTrue => exact .inr ⟨List.getElem?_eq_none (by omega), rfl⟩
    case isFalse => exact .inl (List.getElem?_eq_none (by omega)).symm

theorem getD_padTo {items : List Json} {i : Nat} :
    (padTo items i)[i]?.getD .null = items[i]?.getD .null := by
  rcases getElem?_padTo items i i with h | ⟨h, h'⟩
  · rw [h]
  · rw [h, h']; rfl

theorem atSlot?_putSlot_self (h : slot.Open j) : (j.putSlot slot v).atSlot? slot = some v := by
  cases slot <;> cases j <;>
    simp_all [putSlot, Slot.Open, Slot.fits, isNull, isArr, isObj, atSlot?, emptyContainer, Slot.isItem,
      length_padTo, Dict.get?_insert]

theorem atSlot?_putSlot_of_ne (h : slot.Open j) (hs : slot' ≠ slot) :
    (j.putSlot slot v).atSlot? slot' = j.atSlot? slot' ∨
      j.atSlot? slot' = none ∧ (j.putSlot slot v).atSlot? slot' = some .null := by
  cases slot <;> cases slot'
  case item.item i k =>
    have hk : i ≠ k := fun hk => hs (hk ▸ rfl)
    cases j <;> simp [Slot.Open, Slot.fits, isNull, isArr] at h
    case null => simpa [putSlot, isNull, emptyContainer, Slot.isItem, atSlot?, List.getElem?_set_ne hk]
        using getElem?_padTo [] i k
    case arr items => simpa [putSlot, isNull, atSlot?, List.getElem?_set_ne hk] using getElem?_padTo items i k
  case member.member name other =>
    have hk : name ≠ other := fun hk => hs (hk ▸ rfl)
    cases j <;> simp [Slot.Open, Slot.fits, isNull, isObj] at h
    all_goals
      simp [putSlot, isNull, emptyContainer, Slot.isItem, atSlot?, Dict.get?_insert, hk]
  all_goals
    cases j <;> simp [Slot.Open, Slot.fits, isNull, isArr, isObj] at h
    all_goals simp [putSlot, isNull, emptyContainer, Slot.isItem, atSlot?]

theorem fits_putSlot (h : slot.Open j) : slot.fits (j.putSlot slot v) = true := by
  cases slot <;> cases j <;>
    simp_all [putSlot, Slot.Open, Slot.fits, isNull, isArr, isObj, emptyContainer, Slot.isItem]

theorem putSlot_self (h : j.atSlot? slot = some v) : j.putSlot slot v = j := by
  cases j <;> cases slot <;> simp [atSlot?] at h
  case arr.item items i =>
    obtain ⟨hi, rfl⟩ := List.getElem?_eq_some_iff.mp h
    simp [putSlot, isNull, padTo_eq_self hi]
  case obj.member => simp [putSlot, isNull, Dict.insert_get? h]

theorem Distinct.putSlot (h : j.Distinct) (hv : v.Distinct) : (j.putSlot slot v).Distinct := by
  have hpad {items : List Json} {i : Nat} (hi : ∀ j ∈ items, j.Distinct) :
      DistinctItems ((padTo items i).set i v) := by
    refine distinctItems_iff.mpr fun u hu => ?_
    rcases List.mem_or_eq_of_mem_set hu with hu | rfl
    case inr => exact hv
    case inl =>
      rcases List.mem_append.mp hu with hu | hu
      · exact hi u hu
      · rw [List.eq_of_mem_replicate hu]; trivial
  have hins {members : List (String × Json)} {name : String} (hk : (Dict.keys members).Nodup)
      (hm : ∀ e ∈ members, e.2.Distinct) : (Json.obj (Dict.insert members name v)).Distinct := by
    refine ⟨Dict.nodup_keys_insert v hk, distinctMembers_iff.mpr fun e he => ?_⟩
    rcases Dict.mem_insert he with rfl | he
    · exact hv
    · exact hm e he
  cases j <;> cases slot <;> simp only [Json.putSlot, isNull, emptyContainer, Slot.isItem, if_true,
    Bool.false_eq_true, if_false]
  case null.item => exact hpad (by simp)
  case null.member => exact hins List.nodup_nil (by simp)
  case arr.item => exact hpad (distinctItems_iff.mp h)
  case obj.member => exact hins h.1 (distinctMembers_iff.mp h.2)
  all_goals exact h

theorem Distinct.amend (h : j.Distinct) (hf : ∀ u, u.Distinct → (f u).Distinct) : (j.amend p f).Distinct := by
  induction p generalizing j
  case nil => exact hf j h
  case cons slot p hi =>
    refine h.putSlot (hi ?_)
    cases hj : j.atSlot? slot
    case none => trivial
    case some => exact h.atSlot hj

theorem amend_self (h : j.follow? p = some u) (hf : f u = u) : j.amend p f = j := by
  induction p generalizing j
  case nil => rw [amend, Option.some.inj h, hf]
  case cons slot p hi =>
    obtain ⟨w, hw, h⟩ := Option.bind_eq_some_iff.mp h
    rw [amend, hw, Option.getD_some, hi h, putSlot_self hw]

theorem follow?_amend_append (h : j.Admits p) :
    (j.amend p f).follow? (p ++ s) = (f ((j.follow? p).getD .null)).follow? s := by
  induction p generalizing j
  case nil => rfl
  case cons slot p hi =>
    simp only [amend, List.cons_append, follow?_cons, atSlot?_putSlot_self h.1, Option.bind_some]
    rw [hi h.2]
    cases j.atSlot? slot
    case some => rfl
    case none => cases p <;> simp [follow?, atSlot?]

-- What is found off the path of a write is what was there before, or a `null` where nothing was.
theorem follow?_amend_of_not_prefix (h : j.Admits p) (hp : ¬p <+: q) (hq : ¬q <+: p) :
    (j.amend p f).follow? q = j.follow? q ∨
      j.follow? q = none ∧ (j.amend p f).follow? q = some .null := by
  induction p generalizing j q
  case nil => exact absurd List.nil_prefix hp
  case cons slot p hi =>
    cases q
    case nil => exact absurd List.nil_prefix hq
    case cons slot' q =>
      simp only [amend, follow?_cons]
      by_cases hs : slot' = slot
      case pos =>
        subst hs
        rw [atSlot?_putSlot_self h.1]
        have hp' : ¬p <+: q := fun hp' => hp (List.cons_prefix_cons.mpr ⟨rfl, hp'⟩)
        have hq' : ¬q <+: p := fun hq' => hq (List.cons_prefix_cons.mpr ⟨rfl, hq'⟩)
        have hn : q ≠ [] := by rintro rfl; exact hq' List.nil_prefix
        have hi := hi h.2 hp' hq'
        cases hj : j.atSlot? slot'
        case some => simpa [hj] using hi
        case none => simpa [hj, follow?_of_not_isContainer (j := .null) rfl hn] using hi
      case neg =>
        rcases atSlot?_putSlot_of_ne h.1 hs with he | ⟨hn, he⟩
        · exact .inl (by rw [he])
        · cases q
          case nil => exact .inr ⟨by rw [hn]; rfl, by rw [he]; rfl⟩
          case cons => exact .inl (by rw [hn, he]; simp [atSlot?])

theorem fits_follow?_amend (h : j.Admits (q ++ slot :: s)) :
    ∃ u, (j.amend (q ++ slot :: s) f).follow? q = some u ∧ slot.fits u = true := by
  induction q generalizing j
  case nil => exact ⟨_, rfl, fits_putSlot h.1⟩
  case cons slot' q hi =>
    obtain ⟨u, hu, hs⟩ := hi h.2
    exact ⟨u, by simpa [amend, atSlot?_putSlot_self h.1] using hu, hs⟩

-- A value with nothing inside ends the path it is written along.
theorem follow?_amend_const (h : j.Admits p) (hv : ∀ slot, v.atSlot? slot = none) (hu : u.isContainer = false)
    (hn : u.isNull = false) : (j.amend p fun _ => v).follow? q = some u ↔
      q = p ∧ v = u ∨ ¬p <+: q ∧ j.follow? q = some u := by
  by_cases hp : p <+: q
  case pos =>
    obtain ⟨s, rfl⟩ := hp
    rw [follow?_amend_append h]
    cases s <;> simp [hv]
  case neg =>
    have hne : q ≠ p := fun hq => hp (hq ▸ List.prefix_rfl)
    by_cases hq : q <+: p
    case pos =>
      -- On the way there are arrays and objects only.
      obtain ⟨_ | ⟨slot, s⟩, rfl⟩ := hq
      case nil => simp at hne
      case cons =>
        have ⟨w, hw, hf⟩ := fits_follow?_amend (f := fun _ => v) h
        have ho := h.open_of_append
        constructor
        case mp =>
          intro hu'
          have hc := isContainer_of_fits (Option.some.inj (hw.symm.trans hu') ▸ hf)
          exact absurd hc (by simp [hu])
        case mpr =>
          rintro (⟨hq, -⟩ | ⟨-, hu'⟩)
          · exact absurd hq hne
          · rw [hu'] at ho
            rcases ho with ho | ho
            · exact absurd ho (by simp [hn])
            · exact absurd (isContainer_of_fits ho) (by simp [hu])
    case neg =>
      rcases follow?_amend_of_not_prefix (f := fun _ => v) h hp hq with he | ⟨hj, he⟩
      · simp [he, hp, hne]
      · rw [he, hj]
        cases u <;> simp_all [isNull]

theorem setTokens_of_scalar (h : j.isNull = false) (hc : j.isContainer = false) :
    j.setTokens (name :: tokens) v insert = (false, j) := by
  cases tokens <;> cases j <;>
    simp_all [setTokens, setLast, containerFor, isNull, isContainer]

theorem containerFor_containerFor : (j.containerFor name).containerFor name = j.containerFor name := by
  cases j <;> simp [containerFor, isNull]

theorem setTokens_containerFor :
    (j.containerFor name).setTokens (name :: tokens) v insert = j.setTokens (name :: tokens) v insert := by
  cases tokens <;> simp [setTokens, setLast, containerFor_containerFor]

-- A write goes down into a scalar only to come back from it.
theorem setTokens_descend :
    (if (j.containerFor name).isContainer then (j.containerFor name).setTokens (name :: tokens) v insert
      else (false, j.containerFor name)) = j.setTokens (name :: tokens) v insert := by
  split
  case isTrue => rw [setTokens_containerFor]
  case isFalse h =>
    have hn : j.isNull = false := by
      cases j <;> simp [isNull, containerFor, isContainer] at h ⊢
      cases hi : Pointer.isIndexToken name <;> simp [hi, emptyContainer] at h
    have hj : j.containerFor name = j := by simp [containerFor, hn]
    rw [hj] at h ⊢
    rw [setTokens_of_scalar hn (by simpa using h)]

-- The place that a token of a write comes to, if there is one.
def writeSlot? (j : Json) (token : String) : Option Slot :=
  match j.containerFor token with
  | .arr items => (writeIndex? items token).map .item
  | .obj _ => some (.member token)
  | _ => none

theorem writeSlot?_eq_some : j.writeSlot? token = some slot ↔
    (∃ items i, j.containerFor token = .arr items ∧ writeIndex? items token = some i ∧ slot = .item i) ∨
      ∃ members, j.containerFor token = .obj members ∧ slot = .member token := by
  rw [writeSlot?]
  split <;> simp_all [eq_comm (b := slot)]

theorem containerFor_eq_arr {items : List Json} (h : j.containerFor token = .arr items) :
    j = .arr items ∨ j = .null ∧ items = [] ∧ Pointer.isIndexToken token = true := by
  cases j <;> simp_all [containerFor, isNull]
  case null => cases hi : Pointer.isIndexToken token <;> simp_all [emptyContainer]

theorem containerFor_eq_obj {members : List (String × Json)} (h : j.containerFor token = .obj members) :
    j = .obj members ∨ j = .null ∧ members = [] ∧ Pointer.isIndexToken token = false := by
  cases j <;> simp_all [containerFor, isNull]
  case null => cases hi : Pointer.isIndexToken token <;> simp_all [emptyContainer]

-- The array that is made for a token takes it.
theorem exists_writeIndex?_nil (h : Pointer.isIndexToken token = true) : ∃ i, writeIndex? [] token = some i := by
  simp only [Pointer.isIndexToken, Bool.or_eq_true, beq_iff_eq, Option.isSome_iff_exists] at h
  rw [writeIndex?]
  split
  case isTrue => exact ⟨_, rfl⟩
  case isFalse hd => exact h.resolve_left hd

theorem setTokens_of_writeSlot?_eq_none (h : j.writeSlot? token = none) :
    j.setTokens (token :: tokens) v insert = (false, j) := by
  rw [writeSlot?] at h
  split at h
  case h_1 items hc =>
    have hw : writeIndex? items token = none := Option.map_eq_none_iff.mp h
    obtain rfl | ⟨-, rfl, ht⟩ := containerFor_eq_arr hc
    case inl => cases tokens <;> simp [setTokens, setLast, hc, hw]
    case inr =>
      obtain ⟨i, hi⟩ := exists_writeIndex?_nil ht
      exact absurd (hw.symm.trans hi) (by simp)
  case h_2 => contradiction
  case h_3 harr hobj =>
    have hn : j.isNull = false := by
      cases j <;> simp_all [containerFor, isNull, emptyContainer]
      cases hi : Pointer.isIndexToken token <;> simp_all
    have hc : j.isContainer = false := by cases j <;> simp_all [containerFor, isNull, isContainer]
    exact setTokens_of_scalar hn hc

theorem putSlot_item {items : List Json} {i : Nat} (h : j.containerFor token = .arr items) :
    j.putSlot (.item i) v = .arr ((padTo items i).set i v) := by
  obtain rfl | ⟨rfl, rfl, -⟩ := containerFor_eq_arr h <;> rfl

theorem putSlot_member {members : Dict Json} (h : j.containerFor token = .obj members) :
    j.putSlot (.member token) v = .obj (members.insert token v) := by
  obtain rfl | ⟨rfl, rfl, -⟩ := containerFor_eq_obj h <;> rfl

theorem atSlot?_item {items : List Json} {i : Nat} (h : j.containerFor token = .arr items) :
    j.atSlot? (.item i) = items[i]? := by
  obtain rfl | ⟨rfl, rfl, -⟩ := containerFor_eq_arr h <;> rfl

theorem atSlot?_member {members : Dict Json} (h : j.containerFor token = .obj members) :
    j.atSlot? (.member token) = members.get? token := by
  obtain rfl | ⟨rfl, rfl, -⟩ := containerFor_eq_obj h <;> rfl

-- Writing at several tokens is writing at the first one what has been written at the others below it.
theorem setTokens_through (h : j.writeSlot? token = some slot) (hi : insert = false ∨ tokens ≠ []) :
    j.setTokens (token :: tokens) v insert =
      (((j.atSlot? slot).getD .null).setTokens tokens v insert).map id (j.putSlot slot) := by
  obtain ⟨items, i, hc, hw, rfl⟩ | ⟨members, hc, rfl⟩ := writeSlot?_eq_some.mp h
  case inl =>
    cases tokens
    case nil => simp_all [setTokens, setLast, putSlot_item hc]
    case cons => simp [setTokens, hc, hw, setTokens_descend, getD_padTo, putSlot_item hc, atSlot?_item hc, Prod.map]
  case inr =>
    cases tokens
    case nil => simp_all [setTokens, setLast, putSlot_member hc]
    case cons => simp [setTokens, hc, setTokens_descend, putSlot_member hc, atSlot?_member hc, Prod.map]

theorem containerFor_token (h : slot.Taken j) :
    j.containerFor slot.token = if j.isNull then emptyContainer slot.isItem else j := by
  rw [containerFor]
  rcases h with ⟨hn, hp⟩ | ⟨hf, -⟩
  case inl =>
    rw [if_pos hn, if_pos hn]
    cases slot
    case item => rw [Slot.token, Pointer.isIndexToken_toString hp]; rfl
    case member => rw [Slot.token, hp]; rfl
  case inr =>
    have hn : j.isNull = false := by cases j <;> cases slot <;> simp_all [Slot.fits, isArr, isObj, isNull]
    rw [hn]
    rfl

theorem writeIndex?_toString (items : List Json) {i : Nat} (h : i < 2 ^ 64) :
    writeIndex? items (toString i) = some i := by
  rw [writeIndex?, if_neg Pointer.toString_ne_dash, Pointer.index?_toString h]

theorem writeIndex?_of_not_isIndexToken {items : List Json} (h : Pointer.isIndexToken name = false) :
    writeIndex? items name = none := by
  simp only [Pointer.isIndexToken, Bool.or_eq_false_iff, beq_eq_false_iff_ne, Option.isSome_eq_false_iff,
    Option.isNone_iff_eq_none] at h
  rw [writeIndex?, if_neg h.1, h.2]

-- The token of a place comes to it.
theorem writeSlot?_token (h : slot.Taken j) : j.writeSlot? slot.token = some slot := by
  have hc := containerFor_token h
  have ho := h.open
  cases slot
  case item i =>
    have hw := fun items => writeIndex?_toString items (h.elim And.right And.right : i < 2 ^ 64)
    cases j <;> simp_all [writeSlot?, Slot.token, Slot.Open, Slot.fits, isNull, isArr, emptyContainer, Slot.isItem]
  case member name =>
    cases j <;> simp_all [writeSlot?, Slot.token, Slot.Open, Slot.fits, isNull, isObj, emptyContainer, Slot.isItem]

theorem setTokens_token (h : slot.Taken j) : j.setTokens (slot.token :: tokens) v false =
    (((j.atSlot? slot).getD .null).setTokens tokens v false).map id (j.putSlot slot) :=
  setTokens_through (writeSlot?_token h) (.inl rfl)

theorem setTokens_cons (h : slot.Taken j) :
    (j.setTokens (slot.token :: tokens) v false).2 =
      j.putSlot slot ((((j.atSlot? slot).getD .null).setTokens tokens v false).2) := by
  rw [setTokens_token h, Prod.map_snd]

-- Names do not lead into arrays, nor anything into scalars.
theorem setTokens_of_blocked (hn : Pointer.isIndexToken name = false) (h : ¬Slot.Open (.member name) j) :
    (j.setTokens (name :: tokens) v false).2 = j := by
  have hw : j.writeSlot? name = none := by
    cases j <;> simp_all [Slot.Open, Slot.fits, isNull, isObj, writeSlot?, containerFor, writeIndex?_of_not_isIndexToken hn]
  rw [setTokens_of_writeSlot?_eq_none hw]

theorem setTokens_append_of_takes (h : j.Takes p) :
    (j.setTokens (p.map Slot.token ++ tokens) v false).2 =
      j.amend p fun u => (u.setTokens tokens v false).2 := by
  induction p generalizing j
  case nil => rfl
  case cons slot p hi => rw [List.map_cons, List.cons_append, setTokens_cons h.1, hi h.2, amend]

theorem setTokens_append (hp : ∀ slot ∈ p, slot.Plain) (h : j.Admits p) :
    (j.setTokens (p.map Slot.token ++ tokens) v false).2 =
      j.amend p fun u => (u.setTokens tokens v false).2 :=
  setTokens_append_of_takes (h.takes hp)

theorem setTokens_path_of_takes (h : j.Takes p) :
    (j.setTokens (p.map Slot.token) v false).2 = j.amend p fun _ => v := by
  have he : (j.setTokens (p.map Slot.token ++ []) v false).2 = _ := setTokens_append_of_takes h
  simpa [setTokens] using he

theorem setTokens_path (hp : ∀ slot ∈ p, slot.Plain) (h : j.Admits p) :
    (j.setTokens (p.map Slot.token) v false).2 = j.amend p fun _ => v :=
  setTokens_path_of_takes (h.takes hp)

end Json

end FormModel
