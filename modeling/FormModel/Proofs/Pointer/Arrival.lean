import FormModel.Proofs.Pointer.Write

/-!
Which writes arrive, and what is found then.  A write goes down as long as each of its tokens comes to a place.  Where
nothing is, or `null`, every token does, so once a write has changed something on its way nothing stops it any more.
-/

namespace FormModel

namespace Json

variable {j root u v : Json} {slot : Slot} {token : String} {tokens : Tokens} {address : Address} {insert : Bool} {i : Nat}
  {items : List Json}

-- Whether each token of a write comes to a place, one after the other.
def Receives : Json → Tokens → Prop
  | _, [] => True
  | j, token :: rest => ∃ slot, j.writeSlot? token = some slot ∧ ((j.atSlot? slot).getD .null).Receives rest

theorem exists_writeSlot?_null : ∃ slot, Json.null.writeSlot? token = some slot := by
  rw [writeSlot?]
  cases ht : Pointer.isIndexToken token
  case false => exact ⟨.member token, by simp [containerFor, isNull, ht, emptyContainer]⟩
  case true =>
    obtain ⟨i, hi⟩ := exists_writeIndex?_nil ht
    exact ⟨.item i, by simp [containerFor, isNull, ht, emptyContainer, hi]⟩

theorem receives_null : Json.null.Receives tokens := by
  induction tokens
  case nil => trivial
  case cons token tokens hi =>
    have ⟨slot, hs⟩ : ∃ slot, Json.null.writeSlot? token = some slot := exists_writeSlot?_null
    exact ⟨slot, hs, by cases slot <;> exact hi⟩

-- A write that stops has gone through nothing but what was there.
theorem setTokens_of_not_receives (h : ¬j.Receives tokens) : j.setTokens tokens v insert = (false, j) := by
  induction tokens generalizing j
  case nil => exact absurd trivial h
  case cons token tokens hi =>
    cases hs : j.writeSlot? token
    case none => exact setTokens_of_writeSlot?_eq_none hs
    case some slot =>
      have hbelow : ¬((j.atSlot? slot).getD .null).Receives tokens := fun hr => h ⟨slot, hs, hr⟩
      have ht : tokens ≠ [] := by
        rintro rfl
        exact hbelow trivial
      rw [setTokens_through hs (.inr ht), hi hbelow]
      cases hu : j.atSlot? slot
      case none => exact absurd receives_null (by rwa [hu] at hbelow)
      case some => rw [Option.getD_some, Prod.map_apply, putSlot_self hu, id]

theorem step?_arr (h : writeIndex? items token = some i) {us : List Json} (hu : us[i]? = some u)
    (hd : token = "-" → us.length = i + 1) : (Json.arr us).step? token = some u := by
  rw [writeIndex?] at h
  split at h
  case isTrue ht =>
    obtain ⟨hi, rfl⟩ := List.getElem?_eq_some_iff.mp hu
    have he : us.isEmpty = false := by cases us <;> simp_all
    simp [step?, Pointer.slot?, ht, he, hd ht, atSlot?]
  case isFalse ht => exact step?_item ht h hu

-- A token leads to where it has been written to; a dash, which wrote behind the last item, leads to the last item.
theorem step?_putSlot (h : j.writeSlot? token = some slot) : (j.putSlot slot v).step? token = some v := by
  obtain ⟨items, i, hc, hw, rfl⟩ | ⟨members, hc, rfl⟩ := writeSlot?_eq_some.mp h
  case inl =>
    rw [putSlot_item hc]
    refine step?_arr hw (by simp [length_padTo]) fun ht => ?_
    have hi : items.length = i := by simpa [writeIndex?, ht] using hw
    simp [padTo, hi]
  case inr =>
    rw [putSlot_member hc]
    exact step?_member (by simp [Dict.get?_insert])

theorem setLast_arrives (h : j.writeSlot? token = some slot) :
    (j.setLast token v insert).1 = true ∧ (j.setLast token v insert).2.step? token = some v := by
  have hput := step?_putSlot (v := v) h
  obtain ⟨items, i, hc, hw, rfl⟩ | ⟨members, hc, rfl⟩ := writeSlot?_eq_some.mp h
  case inl =>
    rw [putSlot_item hc] at hput
    simp only [setLast, hc, hw]
    split
    case isTrue hi =>
      simp only [Bool.and_eq_true, bne_iff_ne, decide_eq_true_eq] at hi
      have hv : (items.insertIdx i v)[i]? = some v := by simp [List.getElem?_insertIdx_self, hi.2]
      exact ⟨rfl, step?_arr hw hv fun ht => absurd ht hi.1.2⟩
    case isFalse => exact ⟨rfl, hput⟩
  case inr =>
    rw [putSlot_member hc] at hput
    simp only [setLast, hc]
    exact ⟨trivial, hput⟩

theorem setTokens_of_receives (h : j.Receives tokens) :
    (j.setTokens tokens v insert).1 = true ∧ (j.setTokens tokens v insert).2.getTokens? tokens = some v := by
  induction tokens generalizing j
  case nil => exact ⟨rfl, rfl⟩
  case cons token tokens hi =>
    obtain ⟨slot, hs, hr⟩ := h
    cases tokens
    case nil =>
      obtain ⟨ha, hv⟩ : (j.setLast token v insert).1 = true ∧ _ := setLast_arrives hs
      exact ⟨ha, by rw [setTokens, getTokens?, hv]; rfl⟩
    case cons next rest =>
      obtain ⟨ha, hv⟩ := hi hr
      rw [setTokens_through hs (.inr (by simp)), Prod.map_fst, Prod.map_snd, getTokens?, step?_putSlot hs]
      exact ⟨ha, hv⟩

theorem setTokens_arrives_iff : (j.setTokens tokens v insert).1 = true ↔ j.Receives tokens :=
  ⟨fun ha => by_contra fun h => by simp [setTokens_of_not_receives h] at ha, fun h => (setTokens_of_receives h).1⟩

/-- A write arrives exactly if its address can be read and each of its tokens comes to a place, and then the value that has
been written is found under the same address. -/
theorem get?_set : ((root.set address v insert).1 = true ↔ ∃ tokens, address.parse? = some tokens ∧ root.Receives tokens) ∧
    ((root.set address v insert).1 = true → (root.set address v insert).2.get? address = some v) := by
  rw [set, get?]
  cases address.parse?
  case none => simp
  case some tokens =>
    dsimp only
    rw [setTokens_arrives_iff, Option.bind_some]
    exact ⟨by simp, fun h => (setTokens_of_receives h).2⟩

-- An object with a member that a condition can ask for, and an array.
def labeledList : Json := .obj [("kind", "a"), ("list", .arr [.bool true, .null])]

-- A name that would be read as a condition, a dash on the way, and an insertion.
theorem get?_set_labeledList :
    ((labeledList.set (.text "/kind==a/-/x~1y") "new" false).1 = true ∧
        (labeledList.set (.text "/kind==a/-/x~1y") "new" false).2.get? (.text "/kind==a/-/x~1y") = some (.str "new")) ∧
      (labeledList.set (.tokens ["list", "1"]) "new" true).1 = true ∧
        (labeledList.set (.tokens ["list", "1"]) "new" true).2.get? (.tokens ["list", "1"]) = some (.str "new") := by
  have hname : (labeledList.set (.text "/kind==a/-/x~1y") "new" false).1 = true := by decide
  have hitem : (labeledList.set (.tokens ["list", "1"]) "new" true).1 = true := by decide
  exact ⟨⟨hname, get?_set.2 hname⟩, hitem, get?_set.2 hitem⟩

end Json

end FormModel
