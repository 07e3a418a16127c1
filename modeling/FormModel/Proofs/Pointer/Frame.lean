import FormModel.Proofs.Pointer.Arrival

/-!
What a write leaves alone.  A write that arrives goes along one path, and the document after it is the document before it
with the end of that path replaced: off the path nothing moves, objects only get keys behind those that they have, and arrays
are filled up with `null`.
-/

namespace FormModel

namespace Json

variable {j root u v : Json} {p q w : Path} {slot slot' : Slot} {token name : String} {tokens : Tokens} {f : Json → Json}
  {members : Dict Json}

-- The path that a write goes along: each token as it is, but a dash in an array as the position behind the last item.
def destination? : Json → Tokens → Option Path
  | _, [] => some []
  | j, token :: rest => do
    let slot ← j.writeSlot? token
    let path ← ((j.atSlot? slot).getD .null).destination? rest
    return slot :: path

theorem destination?_cons : j.destination? (token :: tokens) = some w ↔ ∃ slot p, j.writeSlot? token = some slot ∧
    ((j.atSlot? slot).getD .null).destination? tokens = some p ∧ w = slot :: p := by
  have hd : j.destination? (token :: tokens) = (j.writeSlot? token).bind fun slot =>
      (((j.atSlot? slot).getD .null).destination? tokens).bind fun p => some (slot :: p) := rfl
  simp [hd, Option.bind_eq_some_iff, eq_comm (b := w)]

theorem Receives.exists_destination (h : j.Receives tokens) : ∃ w, j.destination? tokens = some w := by
  induction tokens generalizing j
  case nil => exact ⟨[], rfl⟩
  case cons token tokens hi =>
    obtain ⟨slot, hs, h⟩ := h
    obtain ⟨p, hp⟩ := hi h
    exact ⟨slot :: p, destination?_cons.mpr ⟨slot, p, hs, hp, rfl⟩⟩

theorem open_of_writeSlot? (h : j.writeSlot? token = some slot) : slot.Open j := by
  obtain ⟨items, i, hc, -, rfl⟩ | ⟨members, hc, rfl⟩ := writeSlot?_eq_some.mp h
  case inl =>
    obtain rfl | ⟨rfl, -⟩ := containerFor_eq_arr hc
    · exact .inr rfl
    · exact .inl rfl
  case inr =>
    obtain rfl | ⟨rfl, -⟩ := containerFor_eq_obj hc
    · exact .inr rfl
    · exact .inl rfl

-- The items of the array at the end of a path, none where there is no array.
def itemsAt (j : Json) (p : Path) : List Json := ((j.follow? p).bind items?).getD []

theorem itemsAt_cons : j.itemsAt (slot :: p) = ((j.atSlot? slot).getD .null).itemsAt p := by
  rw [itemsAt, itemsAt, follow?_cons]
  cases j.atSlot? slot
  case some => rfl
  case none => cases p <;> rfl

theorem token_of_writeSlot? (h : j.writeSlot? token = some slot) :
    slot.token = token ∨ token = "-" ∧ slot = .item (j.itemsAt []).length := by
  obtain ⟨items, i, hc, hw, rfl⟩ | ⟨members, -, rfl⟩ := writeSlot?_eq_some.mp h
  case inl =>
    rw [writeIndex?] at hw
    split at hw
    case isTrue ht =>
      refine .inr ⟨ht, ?_⟩
      obtain rfl := Option.some.inj hw
      obtain rfl | ⟨rfl, rfl, -⟩ := containerFor_eq_arr hc <;> rfl
    case isFalse => exact .inl (Pointer.toString_of_index? hw)
  case inr => exact .inl rfl

-- The path is spelled as the tokens are, up to the dashes in arrays.
theorem token_of_destination? (h : j.destination? tokens = some w) : w.length = tokens.length ∧
    ∀ k token (slot : Slot), tokens[k]? = some token → w[k]? = some slot →
      slot.token = token ∨ token = "-" ∧ slot = .item (j.itemsAt (w.take k)).length := by
  induction tokens generalizing j w
  case nil =>
    obtain rfl := Option.some.inj h
    exact ⟨rfl, by simp⟩
  case cons first tokens hi =>
    obtain ⟨slot, p, hs, hp, rfl⟩ := destination?_cons.mp h
    have ⟨hl, hk⟩ := hi hp
    refine ⟨congrArg Nat.succ hl, fun k => ?_⟩
    cases k
    case zero =>
      rintro token slot' ht hs'
      obtain rfl := Option.some.inj ht
      obtain rfl := Option.some.inj hs'
      exact token_of_writeSlot? hs
    case succ k =>
      intro token slot' ht hs'
      rw [List.take_succ_cons, itemsAt_cons]
      exact hk k token slot' ht hs'

theorem admits_destination (h : j.destination? tokens = some w) : j.Admits w := by
  induction tokens generalizing j w
  case nil => exact Option.some.inj h ▸ trivial
  case cons token tokens hi =>
    obtain ⟨slot, p, hs, hp, rfl⟩ := destination?_cons.mp h
    exact ⟨open_of_writeSlot? hs, hi hp⟩

theorem setTokens_of_destination (h : j.destination? tokens = some w) :
    j.setTokens tokens v false = (true, j.amend w fun _ => v) := by
  induction tokens generalizing j w
  case nil => exact Option.some.inj h ▸ rfl
  case cons token tokens hi =>
    obtain ⟨slot, p, hs, hp, rfl⟩ := destination?_cons.mp h
    rw [setTokens_through hs (.inl rfl), hi hp, amend]
    rfl

theorem atSlot?_putSlot_member (h : slot.Open j) (hs : slot ≠ .member name) :
    (j.putSlot slot v).atSlot? (.member name) = j.atSlot? (.member name) := by
  rcases atSlot?_putSlot_of_ne (v := v) h hs.symm with he | ⟨-, he⟩
  case inl => exact he
  case inr =>
    -- A `null` is only ever put in front of a position, so there is none under a name that has not been written.
    have hf := fits_putSlot (v := v) h
    cases slot
    case item => cases hj : j.putSlot _ v <;> simp_all [Slot.fits, isArr, atSlot?]
    case member other =>
      have hne : other ≠ name := fun hn => hs (hn ▸ rfl)
      cases j <;> simp_all [Slot.Open, Slot.fits, isNull, isObj, putSlot, emptyContainer, Slot.isItem, atSlot?,
        Dict.get?_insert]

-- Off the path of a write no member comes to an object.
theorem follow?_amend_member (h : j.Admits p) (hp : ¬p <+: q ++ [.member name]) (hq : ¬q ++ [.member name] <+: p) :
    (j.amend p f).follow? (q ++ [.member name]) = j.follow? (q ++ [.member name]) := by
  induction p generalizing j q
  case nil => exact absurd List.nil_prefix hp
  case cons slot p hi =>
    cases q
    case nil =>
      have hs : slot ≠ .member name := fun hs => hq (hs ▸ List.cons_prefix_cons.mpr ⟨rfl, List.nil_prefix⟩)
      simp [amend, atSlot?_putSlot_member h.1 hs]
    case cons slot' q =>
      rw [List.cons_append] at hp hq ⊢
      by_cases hs : slot = slot'
      case pos =>
        subst hs
        rw [List.cons_prefix_cons] at hp hq
        simp only [true_and] at hp hq
        rw [amend, follow?_cons, atSlot?_putSlot_self h.1, Option.bind_some, hi h.2 hp hq, follow?_cons]
        cases j.atSlot? slot
        case some => rfl
        case none => exact follow?_of_not_isContainer rfl (by simp)
      case neg =>
        rw [amend, follow?_cons, follow?_cons]
        rcases atSlot?_putSlot_of_ne (v := amend ((j.atSlot? slot).getD .null) p f) h.1 (Ne.symm hs) with he | ⟨hn, he⟩
        · rw [he]
        · rw [he, hn]
          exact follow?_of_not_isContainer rfl (by simp)

theorem keys_putSlot (h : slot.Open (.obj members)) : ∃ members', (Json.obj members).putSlot slot v = .obj members' ∧
    Dict.keys members <+: Dict.keys members' := by
  cases slot
  case item => simp [Slot.Open, Slot.fits, isNull, isArr] at h
  case member name =>
    refine ⟨Dict.insert members name v, rfl, ?_⟩
    cases hm : Dict.has members name
    case true => rw [Dict.keys_insert_of_has v hm]
    case false => rw [Dict.keys_insert_of_not_has v hm]; exact List.prefix_append _ _

-- An object on the path of a write keeps its keys, in their order and before all others.
theorem keys_amend (h : j.Admits (q ++ slot :: p)) (hq : j.follow? q = some (.obj members)) :
    ∃ members', (j.amend (q ++ slot :: p) f).follow? q = some (.obj members') ∧
      Dict.keys members <+: Dict.keys members' := by
  induction q generalizing j
  case nil =>
    obtain rfl := Option.some.inj hq
    obtain ⟨members', hm, hk⟩ := keys_putSlot (v := amend (((Json.obj members).atSlot? slot).getD .null) p f) h.1
    exact ⟨members', congrArg some hm, hk⟩
  case cons slot' q hi =>
    obtain ⟨u, hu, hq⟩ := Option.bind_eq_some_iff.mp hq
    have hd : ((j.atSlot? slot').getD .null).follow? q = some (.obj members) := by rwa [hu]
    obtain ⟨members', hm, hk⟩ := hi h.2 hd
    exact ⟨members', by rwa [List.cons_append, amend, follow?_cons, atSlot?_putSlot_self h.1], hk⟩

/-- A write that arrives goes along a path, which is the tokens with each dash in an array read as the number of its items.
A node that is neither on the way nor at its end or below stays, and what comes anew off the path is `null` in front of a
position.  The keys of an object stay in order, those that come are behind them. -/
theorem set_off_destination (h : (root.set (.tokens tokens) v false).1 = true) : ∃ w, root.destination? tokens = some w ∧
    (w.length = tokens.length ∧ ∀ k token (slot : Slot), tokens[k]? = some token → w[k]? = some slot →
      slot.token = token ∨ token = "-" ∧ slot = .item (root.itemsAt (w.take k)).length) ∧
    (∀ q u, root.follow? q = some u → ¬q <+: w → ¬w <+: q → (root.set (.tokens tokens) v false).2.follow? q = some u) ∧
    (∀ q members, root.follow? q = some (.obj members) → ¬w <+: q →
      ∃ members', (root.set (.tokens tokens) v false).2.follow? q = some (.obj members') ∧
        Dict.keys members <+: Dict.keys members') ∧
    ∀ q u, (root.set (.tokens tokens) v false).2.follow? q = some u → root.follow? q = none → ¬q <+: w → ¬w <+: q →
      u = .null ∧ ∃ outer i, q = outer ++ [.item i] := by
  have h : (root.setTokens tokens v false).1 = true := h
  obtain ⟨w, hw⟩ := (setTokens_arrives_iff.mp h).exists_destination
  have hset : (root.set (.tokens tokens) v false).2 = root.amend w fun _ => v :=
    congrArg Prod.snd (setTokens_of_destination hw)
  have ha := admits_destination hw
  rw [hset]
  have hkept : ∀ q u, root.follow? q = some u → ¬q <+: w → ¬w <+: q → (root.amend w fun _ => v).follow? q = some u := by
    intro q u hu hq hp
    rcases follow?_amend_of_not_prefix (f := fun _ => v) ha hp hq with he | ⟨hn, -⟩
    · rw [he, hu]
    · exact absurd (hu.symm.trans hn) (by simp)
  refine ⟨w, hw, token_of_destination? hw, hkept, fun q members hm hp => ?_, fun q u hu hn hq hp => ?_⟩
  case refine_1 =>
    by_cases hq : q <+: w
    case neg => exact ⟨members, hkept q _ hm hq hp, List.prefix_rfl⟩
    case pos =>
      obtain ⟨_ | ⟨slot, p⟩, rfl⟩ := hq
      case nil => exact absurd (by rw [List.append_nil]) hp
      case cons => exact keys_amend ha hm
  case refine_2 =>
    rcases follow?_amend_of_not_prefix (f := fun _ => v) ha hp hq with he | ⟨-, he⟩
    · exact absurd (hu.symm.trans (he.trans hn)) (by simp)
    refine ⟨Option.some.inj (hu.symm.trans he), ?_⟩
    rcases List.eq_nil_or_concat q with rfl | ⟨outer, slot, rfl⟩
    · exact absurd List.nil_prefix hq
    rw [List.concat_eq_append] at hu hn hq hp ⊢
    cases slot
    case item i => exact ⟨outer, i, rfl⟩
    case member name => exact absurd (hu.symm.trans ((follow?_amend_member ha hp hq).trans hn)) (by simp)

-- A write behind the end of the list, into an array that is made there.
theorem set_off_destination_labeledList : ∃ w, labeledList.destination? ["list", "3", "-"] = some w ∧
    w = [.member "list", .item 3, .item 0] ∧
    (labeledList.set (.tokens ["list", "3", "-"]) "new" false).1 = true ∧
    (labeledList.set (.tokens ["list", "3", "-"]) "new" false).2.follow? [.member "list", .item 0] = some (.bool true) ∧
    ∀ u, (labeledList.set (.tokens ["list", "3", "-"]) "new" false).2.follow? [.member "list", .item 2] = some u →
      u = .null := by
  have h : (labeledList.set (.tokens ["list", "3", "-"]) "new" false).1 = true := by decide
  obtain ⟨w, hw, -, hkept, -, hnew⟩ := set_off_destination h
  have hpath : labeledList.destination? ["list", "3", "-"] = some [.member "list", .item 3, .item 0] := by decide
  obtain rfl := Option.some.inj (hw.symm.trans hpath)
  exact ⟨_, hw, rfl, h, hkept _ _ rfl (by decide) (by decide), fun u hu => (hnew _ u hu rfl (by decide) (by decide)).1⟩

end Json

end FormModel
