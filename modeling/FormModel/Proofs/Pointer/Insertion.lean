import FormModel.Proofs.Pointer.Removal

/-!
A removal takes back an insertion.  An insertion goes down a path of literal keys and positions to an array or object and
makes a place there; a removal at the same tokens goes down the same path, although it also knows conditions and reads a dash
as the last item, and closes the place again.
-/

namespace FormModel

namespace Json

variable {j root u v w : Json} {p : Path} {slot : Slot} {token : String} {tokens : Tokens} {items : List Json}
  {members : Dict Json} {i : Nat}

-- Whether a token names a place that an insertion makes in a value: a position up to the end of an array, a dash for its
-- end, or a key that an object does not have.
def MakesRoom (token : String) : Json → Prop
  | .arr items => token = "-" ∨ ∃ i, Pointer.index? token = some i ∧ i ≤ items.length
  | .obj members => Dict.has members token = false
  | _ => False

theorem slot?_token (hb : slot.Bounded) (h : j.atSlot? slot = some v) : Pointer.slot? j slot.token = some slot := by
  cases j <;> cases slot <;> simp only [atSlot?, reduceCtorEq] at h
  case arr.item items i =>
    have hlen := (List.getElem?_eq_some_iff.mp h).1
    rw [Slot.token, Pointer.slot?, if_neg Pointer.toString_ne_dash, Pointer.index?_toString hb, Option.bind_some, if_pos hlen]
  case obj.member members name => simp [Pointer.slot?, Slot.token, Pointer.memberName?, Dict.has, h]

theorem taken_of_atSlot? (hb : slot.Bounded) (h : j.atSlot? slot = some v) : slot.Taken j := .inr ⟨fits_of_atSlot? h, hb⟩

-- What has been written over a value is put back.
theorem setSlot_putSlot (h : j.atSlot? slot = some u) : (j.putSlot slot v).setSlot slot u = j := by
  cases j <;> cases slot <;> simp only [atSlot?, reduceCtorEq] at h
  case arr.item items i =>
    obtain ⟨hi, rfl⟩ := List.getElem?_eq_some_iff.mp h
    simp [putSlot, isNull, padTo_eq_self hi, setSlot]
  case obj.member members name => simp [putSlot, isNull, setSlot, Dict.insert_insert, Dict.insert_get? h]

theorem index?_dash : Pointer.index? "-" = none := by decide

theorem setLast_dash : (Json.arr items).setLast "-" v true = (true, .arr (items ++ [v])) := by
  simp [setLast, containerFor, isNull, writeIndex?, padTo]

theorem setLast_index (hi : Pointer.index? token = some i) (hl : i ≤ items.length) :
    (Json.arr items).setLast token v true = (true, .arr (items.insertIdx i v)) := by
  have ht : token ≠ "-" := fun ht => absurd (ht ▸ hi) (by simp [index?_dash])
  simp [setLast, containerFor, isNull, writeIndex?, ht, hi, hl]

theorem removeLast_dash : (Json.arr (items ++ [v])).removeLast "-" = (some v, .arr items) := by
  simp [removeLast, List.eraseIdx_append_of_length_le]

theorem removeLast_index (hi : Pointer.index? token = some i) (hl : i ≤ items.length) :
    (Json.arr (items.insertIdx i v)).removeLast token = (some v, .arr items) := by
  have ht : token ≠ "-" := fun ht => absurd (ht ▸ hi) (by simp [index?_dash])
  simp [removeLast, ht, hi, List.getElem?_insertIdx_self, hl, List.eraseIdx_insertIdx_self]

theorem removeLast_member (h : Dict.has members token = false) :
    (Json.obj (Dict.insert members token v)).removeLast token = (some v, .obj members) := by
  have hm : Dict.get? members token = none := by simpa [Dict.has] using h
  have herase : Dict.erase (members ++ [(token, v)]) token = Dict.erase members token := by simp [Dict.erase]
  rw [removeLast, Dict.get?_insert, if_pos rfl, Dict.insert_of_not_has h, herase, Dict.erase_of_get?_eq_none hm]

-- At the last token the place that has been made is closed again.
theorem removeLast_setLast (h : j.MakesRoom token) : (j.setLast token v true).1 = true ∧
    (j.setLast token v true).2.removeLast token = (some v, j) := by
  cases j <;> simp only [MakesRoom] at h
  case arr items =>
    rcases h with rfl | ⟨i, hi, hl⟩
    case inl => rw [setLast_dash]; exact ⟨rfl, removeLast_dash⟩
    case inr => rw [setLast_index hi hl]; exact ⟨rfl, removeLast_index hi hl⟩
  case obj members => exact ⟨rfl, removeLast_member h⟩

-- On the way down a removal comes through the place that the insertion has come through.
theorem removeTokens_putSlot (hb : slot.Bounded) (hs : j.atSlot? slot = some u) (ht : tokens ≠ [])
    (hr : w.removeTokens tokens = (some v, u)) : (j.putSlot slot w).removeTokens (slot.token :: tokens) = (some v, j) := by
  have hw : (j.putSlot slot w).atSlot? slot = some w := atSlot?_putSlot_self (taken_of_atSlot? hb hs).open
  obtain ⟨next, rest, rfl⟩ := List.exists_cons_of_ne_nil ht
  simp only [removeTokens, slot?_token hb hw, hw, hr, setSlot_putSlot hs]

theorem removeTokens_setTokens (hb : ∀ slot ∈ p, slot.Bounded) (hp : j.follow? p = some u) (h : u.MakesRoom token) :
    (j.setTokens (p.map Slot.token ++ [token]) v true).1 = true ∧
      (j.setTokens (p.map Slot.token ++ [token]) v true).2.removeTokens (p.map Slot.token ++ [token]) = (some v, j) := by
  induction p generalizing j
  case nil =>
    obtain rfl := Option.some.inj hp
    exact removeLast_setLast h
  case cons slot p hi =>
    have ⟨hs, hb⟩ := List.forall_mem_cons.mp hb
    obtain ⟨child, hchild, hp⟩ := Option.bind_eq_some_iff.mp hp
    have hne : p.map Slot.token ++ [token] ≠ [] := by simp
    obtain ⟨harrives, hback⟩ := hi hb hp
    rw [List.map_cons, List.cons_append, setTokens_through (writeSlot?_token (taken_of_atSlot? hs hchild)) (.inr hne), hchild]
    exact ⟨harrives, removeTokens_putSlot hs hchild hne hback⟩

/-- An insertion at a place that it makes in an array or object arrives, and the removal at the same tokens gives the value
that has been inserted and the document as it was. -/
theorem remove_inserted (hb : ∀ slot ∈ p, slot.Bounded) (hp : root.follow? p = some u) (h : u.MakesRoom token) :
    (root.set (.tokens (p.map Slot.token ++ [token])) v true).1 = true ∧
      (root.set (.tokens (p.map Slot.token ++ [token])) v true).2.remove (.tokens (p.map Slot.token ++ [token])) =
        (some v, root) :=
  removeTokens_setTokens hb hp h

-- Before the first item, behind the last one, and under a key that would be read as a condition.
theorem remove_inserted_labeledList :
    (labeledList.set (.tokens ["list", "0"]) "new" true).2.remove (.tokens ["list", "0"]) = (some (.str "new"), labeledList) ∧
      (labeledList.set (.tokens ["list", "-"]) "new" true).2.remove (.tokens ["list", "-"]) =
        (some (.str "new"), labeledList) ∧
      (labeledList.set (.tokens ["kind==a"]) "new" true).2.remove (.tokens ["kind==a"]) =
        (some (.str "new"), labeledList) := by
  have hb : ∀ slot ∈ [Slot.member "list"], slot.Bounded := by simp [Slot.Bounded]
  have hlist : labeledList.follow? [.member "list"] = some (.arr [.bool true, .null]) := rfl
  have hitem : (Json.arr [.bool true, .null]).MakesRoom "0" := .inr ⟨0, by decide, by decide⟩
  have hend : (Json.arr [.bool true, .null]).MakesRoom "-" := .inl rfl
  have hkey : labeledList.MakesRoom "kind==a" := show Dict.has _ _ = false by decide
  exact ⟨(remove_inserted hb hlist hitem).2, (remove_inserted hb hlist hend).2,
    (remove_inserted (p := []) (by simp) rfl hkey).2⟩

end Json

end FormModel
