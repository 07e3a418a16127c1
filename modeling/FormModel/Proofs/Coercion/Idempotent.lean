import FormModel.Proofs.Coercion
import FormModel.Proofs.Decimal.Readback

/-!
What a conversion gives is converted to itself.  A number that was read is a number of the same kind when it is read
again, and the text of a number is read as that number, so a number that was no integer is none as a text.
-/

namespace FormModel

variable {value r types : Json} {f : Float} {n : Number} {strict : Bool} {ts : List SchemaType}

namespace Json

/-! ### Numbers again -/

theorem numberOf_of_isWhole (hw : isWhole f = true) :
    (∃ h, numberOf f = .num (.int (truncate f) h)) ∨ numberOf f = ofFloat f := by
  have hf := (Bool.and_eq_true_iff.mp hw).1
  unfold numberOf
  split
  case isTrue h =>
    have hlt := floor_lt_of_abs_lt hf (of_decide_eq_true (Bool.and_eq_true_iff.mp h).2)
    have hi : -0x8000000000000000 ≤ truncate f ∧ truncate f < 0x10000000000000000 := by
      unfold truncate withSignOf
      split <;> omega
    exact .inl ⟨hi, dif_pos hi⟩
  case isFalse => exact .inr rfl

theorem numberOf_of_not_isWhole (hw : isWhole f = false) : numberOf f = ofFloat f := by
  rw [numberOf, hw, Bool.false_and]
  rfl

theorem asIntegerValue?_str {s : String} :
    (str s).asIntegerValue? = ((Decimal.parse? s).filter isWhole).map numberOf := rfl

theorem asIntegerValue?_ofFloat (hf : f.isFinite = true) :
    (ofFloat f).asIntegerValue? = if isWhole f then some (numberOf f) else none := by
  rw [ofFloat, dif_pos hf]
  show ((some f).filter isWhole).map numberOf = _
  rw [Option.filter_some]
  split <;> rfl

-- A float that has become a number is whole as a number if it was whole.
theorem asIntegerValue?_numberOf (hf : f.isFinite = true) :
    (numberOf f).asIntegerValue? = if isWhole f then some (numberOf f) else none := by
  cases hw : isWhole f
  case false =>
    rw [numberOf_of_not_isWhole hw, asIntegerValue?_ofFloat hf, hw]
    rfl
  case true =>
    rcases numberOf_of_isWhole hw with ⟨hi, h⟩ | h
    case inl => rw [h, if_pos rfl]; rfl
    case inr => rw [if_pos rfl, h, asIntegerValue?_ofFloat hf, hw, if_pos rfl, h]

theorem asIntegerValue?_of_asIntegerValue? (h : value.asIntegerValue? = some r) : r.asIntegerValue? = some r := by
  unfold asIntegerValue? at h
  split at h
  case h_1 => exact Option.some.inj h ▸ rfl
  case h_2 =>
    have ⟨f, hf, hr⟩ := Option.map_eq_some_iff.mp h
    have hw := (Option.filter_eq_some_iff.mp hf).2
    rw [← hr, asIntegerValue?_numberOf (Bool.and_eq_true_iff.mp hw).1, if_pos hw]

theorem asNumberValue?_of_isNum (h : r.isNum) : r.asNumberValue? = some r := by
  cases r <;> first | rfl | contradiction

-- Reading a number makes it an integer only if it could be read as one in the first place.
theorem asIntegerValue?_of_asNumberValue? (h : value.asNumberValue? = some r) : r.asIntegerValue? = value.asIntegerValue? := by
  cases value
  case num => exact Option.some.inj h ▸ rfl
  case str s =>
    obtain ⟨f, hf, rfl⟩ := Option.map_eq_some_iff.mp h
    have hfinite := Decimal.isFinite_of_parse? hf
    rw [asIntegerValue?_numberOf hfinite]
    rw [asIntegerValue?_str, show Decimal.parse? s = some f from hf, Option.filter_some]
    split <;> rfl
  all_goals contradiction

/-! ### Numbers as texts -/

theorem asIntegerValue?_text (h : (num n).asIntegerValue? = none) : (str n.text).asIntegerValue? = none := by
  cases n
  case int => contradiction
  case float f hf =>
    rw [asIntegerValue?_str, Decimal.parse?_text]
    exact h

/-! ### Conversion -/

-- A number that is given as a text was neither wanted as a number nor an integer that was wanted.
theorem coerceTo?_text (hn : (num n).asIntegerValue? = none ∨ (strict && ts.contains .integer) = false)
    (hnumber : (ts.contains .number || (!strict && ts.contains .integer)) = false) (ht : ts.contains .string) :
    (str n.text).coerceTo? ts strict = some (.str n.text) := by
  have hinteger : (if strict && ts.contains .integer then (str n.text).asIntegerValue? else none) = none := by
    rcases hn with hn | hn
    case inl => rw [asIntegerValue?_text hn, ite_self]
    case inr => rw [hn]; rfl
  rw [coerceTo?_eq, hinteger, hnumber, if_pos ht]
  rfl

-- Whichever reading a value came out of, the readings before it fail again and it is read as itself.
theorem coerce?_idempotent (h : value.coerce? types strict = some r) : r.coerce? types strict = some r := by
  unfold coerce? at h ⊢
  generalize SchemaType.listOf types = ts at h ⊢
  have hv := h
  simp only [coerceTo?_eq, Option.or_eq_some_iff, Option.or_eq_none_iff, Option.ite_none_right_eq_some] at h
  rcases h with (⟨ht, h⟩ | ⟨hinteger, ht, h⟩) | ⟨⟨hinteger, hnumber⟩, ⟨ht, h⟩ | ⟨_, ht, h⟩⟩
  · rw [coerceTo?_eq, if_pos ht, asIntegerValue?_of_asIntegerValue? h]
    rfl
  · rw [coerceTo?_eq, asIntegerValue?_of_asNumberValue? h, hinteger, if_pos ht,
      asNumberValue?_of_isNum (isNum_of_asNumberValue? h)]
    rfl
  · cases value
    case str => exact Option.some.inj h ▸ hv
    case num n =>
      obtain rfl := Option.some.inj h
      refine coerceTo?_text ?_ ?_ ht
      · by_cases hc : (strict && ts.contains .integer) = true
        case pos => exact .inl ((if_pos hc).symm.trans hinteger)
        case neg => exact .inr (Bool.not_eq_true _ ▸ hc)
      · by_contra hc
        exact nomatch (if_pos (Bool.not_eq_false _ ▸ hc)).symm.trans hnumber
    all_goals contradiction
  · obtain ⟨b, _, rfl⟩ := Option.map_eq_some_iff.mp h
    rw [coerceTo?_eq, if_pos ht]
    simp [asIntegerValue?, asNumberValue?, asStringValue?, asNumber?, asBool?]

theorem coerce?_idempotent_fraction :
    (num (.float (.ofBits 0x3FF8000000000000) (by decide))).coerce? (.arr ["integer", "string"]) true =
        some (.str "1.5") ∧
      (Json.str "1.5").coerce? (.arr ["integer", "string"]) true = some (.str "1.5") := by
  have htext : Number.text (.float (.ofBits 0x3FF8000000000000) (by decide)) = "1.5" := by decide +kernel
  have hfirst : (num (.float (.ofBits 0x3FF8000000000000) (by decide))).coerce? (.arr ["integer", "string"]) true =
      some (.str "1.5") := by
    rw [← htext]
    rfl
  exact ⟨hfirst, coerce?_idempotent hfirst⟩

end Json
end FormModel
