import FormModel.Proofs.Dict
import FormModel.Proofs.Pointer.Arrival

/-!
Writes and removals that fail leave everything as it was.  A removal puts back what it has gone through, changed or not, so
it is to be seen that without a value to take out it puts back the same.
-/

namespace FormModel

namespace Json

variable {j root u : Json} {slot : Slot} {token : String} {tokens : Tokens} {address : Address}

theorem setSlot_self (h : j.atSlot? slot = some u) : j.setSlot slot u = j := by
  cases j <;> cases slot <;> simp [atSlot?] at h
  case arr.item items i =>
    obtain ⟨hi, rfl⟩ := List.getElem?_eq_some_iff.mp h
    rw [setSlot, List.set_getElem_self]
  case obj.member => rw [setSlot, Dict.insert_get? h]

theorem removeLast_of_none (h : (j.removeLast token).1 = none) : (j.removeLast token).2 = j := by
  cases j
  case arr items =>
    rw [removeLast] at h ⊢
    split at h
    case h_1 => rfl
    case h_2 i _ =>
      have hlen : items.length ≤ i := List.getElem?_eq_none_iff.mp h
      rw [List.eraseIdx_of_length_le hlen]
  case obj members =>
    rw [removeLast] at h ⊢
    rw [Dict.erase_of_get?_eq_none h]
  all_goals rfl

theorem removeTokens_of_none (h : (j.removeTokens tokens).1 = none) : (j.removeTokens tokens).2 = j := by
  induction tokens generalizing j
  case nil => contradiction
  case cons token tokens hi =>
    cases tokens
    case nil => exact removeLast_of_none h
    case cons next rest =>
      rw [removeTokens] at h ⊢
      split at h
      case h_1 => rfl
      case h_2 slot _ =>
        split at h
        case h_1 => rfl
        case h_2 u hu =>
          dsimp only at h ⊢
          rw [hi h, setSlot_self hu]

/-- A write that does not arrive and a removal that finds nothing leave the document as it was. -/
theorem unchanged_of_failed :
    (∀ v insert, (root.set address v insert).1 = false → (root.set address v insert).2 = root) ∧
      ((root.remove address).1 = none → (root.remove address).2 = root) := by
  constructor
  case left =>
    intro v insert h
    rw [set] at h ⊢
    split at h
    case h_1 => rfl
    case h_2 tokens _ =>
      have hr : ¬root.Receives tokens := fun hr => by simp [(setTokens_of_receives hr).1] at h
      rw [setTokens_of_not_receives hr]
  case right =>
    intro h
    rw [remove] at h ⊢
    split at h
    case h_1 => rfl
    case h_2 => exact removeTokens_of_none h

-- A write into a scalar, a write under a name in an array, and removals of what is not there.
theorem unchanged_labeledList :
    ((labeledList.set (.tokens ["list", "0", "-"]) "new" true).1 = false ∧
        (labeledList.set (.tokens ["list", "0", "-"]) "new" true).2 = labeledList) ∧
      ((labeledList.set (.text "/list/first/x") "new" false).1 = false ∧
        (labeledList.set (.text "/list/first/x") "new" false).2 = labeledList) ∧
      ((labeledList.remove (.text "/list/2")).1 = none ∧ (labeledList.remove (.text "/list/2")).2 = labeledList) ∧
      (labeledList.remove (.tokens ["kind==a"])).1 = none ∧
        (labeledList.remove (.tokens ["kind==a"])).2 = labeledList := by
  have hscalar : (labeledList.set (.tokens ["list", "0", "-"]) "new" true).1 = false := by decide
  have hname : (labeledList.set (.text "/list/first/x") "new" false).1 = false := by decide
  have hitem : (labeledList.remove (.text "/list/2")).1 = none := Option.isNone_iff_eq_none.mp (by decide)
  have hcondition : (labeledList.remove (.tokens ["kind==a"])).1 = none := Option.isNone_iff_eq_none.mp (by decide)
  exact ⟨⟨hscalar, unchanged_of_failed.1 _ _ hscalar⟩, ⟨hname, unchanged_of_failed.1 _ _ hname⟩,
    ⟨hitem, unchanged_of_failed.2 hitem⟩, hcondition, unchanged_of_failed.2 hcondition⟩

end Json

end FormModel
