import FormModel.Proofs.Pointer.Write

/-!
Arrays and objects stay arrays and objects.  A write turns what stands at a place into something of another kind only where
its tokens end there or above; and what it makes where nothing is, is an array or an object by the look of the next token.
-/

namespace FormModel

namespace Json

variable {j u v : Json} {p q : Path} {slot : Slot} {token : String} {tokens : Tokens} {f : Json → Json}

theorem Takes.of_forall (h : ∀ q slot s, p = q ++ slot :: s → slot.Taken ((j.follow? q).getD .null)) : j.Takes p := by
  induction p generalizing j
  case nil => trivial
  case cons slot p hi =>
    refine ⟨h [] slot p rfl, hi fun q slot' s hp => ?_⟩
    have hq := h (slot :: q) slot' s (by rw [hp, List.cons_append])
    rwa [getD_follow?_cons] at hq

-- The kind of what is written into is that of what stands there, or the one that the token asks for.
theorem kind_setTokens {insert : Bool} : (j.setTokens (token :: tokens) v insert).2.kind = (j.containerFor token).kind := by
  cases tokens
  case nil =>
    rw [setTokens, setLast]
    split
    case h_1 items hc =>
      rw [hc]
      repeat' split
      all_goals rfl
    case h_2 hc => rw [hc]; rfl
    case h_3 => rfl
  case cons =>
    rw [setTokens]
    dsimp only
    split
    case h_1 items hc =>
      rw [hc]
      split <;> rfl
    case h_2 hc => rw [hc]; rfl
    case h_3 => rfl

theorem setTokens_arr {items : List Json} : ((Json.arr items).setTokens (token :: tokens) v false).2 =
    match writeIndex? items token with
    | none => .arr items
    | some i => .arr ((padTo items i).set i ((items[i]?.getD .null).setTokens tokens v false).2) := by
  cases hw : writeIndex? items token
  case none =>
    have hs : (Json.arr items).writeSlot? token = none := congrArg (Option.map Slot.item) hw
    rw [setTokens_of_writeSlot?_eq_none hs]
  case some i =>
    have hs : (Json.arr items).writeSlot? token = some (.item i) := congrArg (Option.map Slot.item) hw
    rw [setTokens_through hs (.inl rfl)]
    rfl

theorem setTokens_obj {members : Dict Json} : ((Json.obj members).setTokens (token :: tokens) v false).2 =
    .obj (members.insert token (((members.get? token).getD .null).setTokens tokens v false).2) := by
  have hs : (Json.obj members).writeSlot? token = some (.member token) := rfl
  rw [setTokens_through hs (.inl rfl)]
  rfl

theorem eq_of_writeIndex? {items : List Json} {i : Nat} (h : writeIndex? items token = some i) (hi : i < items.length) :
    token = toString i := by
  rw [writeIndex?] at h
  split at h
  case isTrue => exact absurd (Option.some.inj h) (Nat.ne_of_gt hi)
  case isFalse => exact (Pointer.toString_of_index? h).symm

-- Arrays and objects stay what they are, unless a write ends at them or above.
theorem exists_follow?_setTokens (h : j.follow? p = some u) (hu : u.isContainer) (hp : ¬tokens <+: p.map Slot.token) :
    ∃ u', (j.setTokens tokens v false).2.follow? p = some u' ∧ u'.kind = u.kind := by
  induction p generalizing j tokens
  case nil =>
    obtain rfl := Option.some.inj h
    cases tokens
    case nil => simp at hp
    case cons token tokens =>
      have hc : j.containerFor token = j := by cases j <;> first | contradiction | rfl
      exact ⟨_, rfl, by rw [kind_setTokens, hc]⟩
  case cons slot p hi =>
    obtain ⟨w, hw, hf⟩ := Option.bind_eq_some_iff.mp h
    cases tokens
    case nil => simp at hp
    case cons token tokens =>
      have hbelow (ht : token = slot.token) : ¬tokens <+: p.map Slot.token := fun h =>
        hp (List.cons_prefix_cons.mpr ⟨ht, h⟩)
      cases j <;> cases slot <;> simp only [atSlot?, reduceCtorEq] at hw
      case arr.item items i =>
        rw [setTokens_arr]
        cases hk : writeIndex? items token
        case none => exact ⟨u, by simp [atSlot?, hw, hf], rfl⟩
        case some k =>
          by_cases hki : k = i
          case pos =>
            subst hki
            have ht := eq_of_writeIndex? hk (List.getElem?_eq_some_iff.mp hw).1
            simpa [atSlot?, length_padTo, hw] using hi hf (hbelow ht)
          case neg =>
            have hpad : (padTo items k)[i]? = some w := (getElem?_padTo items k i).elim (·.trans hw) fun hn => by simp [hw] at hn
            exact ⟨u, by simp [atSlot?, List.getElem?_set_ne hki, hpad, hf], rfl⟩
      case obj.member members name =>
        rw [setTokens_obj]
        by_cases ht : token = name
        case pos =>
          subst ht
          simpa [atSlot?, Dict.get?_insert, hw] using hi hf (hbelow rfl)
        case neg => exact ⟨u, by simp [atSlot?, Dict.get?_insert, ht, hw, hf], rfl⟩

end Json

end FormModel
