import FormModel.Proofs.Decimal.Shortest

/-!
Whole parts of floats as floats.  The whole part of a finite float is a mantissa of at most 53 bits with zeros behind it,
so it is a finite float again, however great it is.  Below `2 ^ 63` it is an integer of 64 bits as well.
-/

namespace FormModel

open Float.Model (UnpackedFloat)
open Float.Model.UnpackedFloat

variable {f : Float} {n m k : Nat} {i : Int}

-- A float that is taken apart into a positive sign and a size that can be written.
def IsPositive (f : Float) : Prop :=
  ∃ m e hm, f.toModel.unpack = .finite .positive m e hm ∧ 2 ^ 52 ≤ m ∧ m < 2 ^ 53 ∧ -1074 ≤ e ∧ e ≤ 971

theorem IsPositive.isFinite (h : IsPositive f) : f.isFinite = true := by
  obtain ⟨_, _, _, hu, _⟩ := h
  show f.toModel.unpack.isFinite = true
  rw [hu]
  rfl

theorem IsPositive.isFinite_neg (h : IsPositive f) : f.neg.isFinite = true := by
  obtain ⟨m, e, hm, hu, hlow, hhigh, he, he'⟩ := h
  show (Float.Model.pack (neg f.toModel.unpack)).unpack.isFinite = true
  rw [hu, neg, unpack_pack hlow hhigh he he']
  rfl

-- Numbers that are floats: they have at most 53 bits, with zeros behind them.
def IsExact (n : Nat) : Prop := n < 2 ^ 53 ∨ ∃ m k, n = m * 2 ^ k ∧ 2 ^ 52 ≤ m ∧ m < 2 ^ 53 ∧ k ≤ 971

theorem isPositive_ofNat_of_lt (hn : 0 < n) (hlt : n < 2 ^ 53) : IsPositive (Float.ofNat n) := by
  have ⟨m, e, hm, hu, hlow, hhigh, hv⟩ := exists_unpack_ofNat hn (by omega)
  rcases hv with ⟨k, rfl, rfl⟩ | ⟨_, hge⟩
  case inl =>
    have hk : k ≤ 52 := by
      by_contra hk
      have : 2 ^ 53 ≤ n * 2 ^ k := (Nat.pow_le_pow_right (by decide) (by omega)).trans (Nat.le_mul_of_pos_left _ hn)
      omega
    exact ⟨_, _, hm, hu, hlow, hhigh, by omega, by omega⟩
  case inr => omega

theorem isPositive_ofNat_mul (hm : 2 ^ 52 ≤ m) (hm' : m < 2 ^ 53) (hk : 1 ≤ k) (hk' : k ≤ 971) :
    IsPositive (Float.ofNat (m * 2 ^ k)) := by
  have hge : 2 ^ 53 ≤ m * 2 ^ k := by
    calc 2 ^ 53 = 2 ^ 52 * 2 ^ 1 := by decide
      _ ≤ m * 2 ^ k := Nat.mul_le_mul hm (Nat.pow_le_pow_right (by decide) hk)
  have hshift : (m * 2 ^ k) <<< 53 * 10 ^ 0 = m * 2 ^ (k + 53) := by
    rw [Nat.pow_zero, Nat.mul_one, Nat.shiftLeft_eq, Nat.mul_assoc, ← Nat.pow_add]
  refine ⟨m, k, by omega, ?_, hm, hm', by omega, by omega⟩
  rw [toModel_ofNat_of_le hge, hshift, roundWithAccuracy_exact hm hm' (by omega)]
  simp only [show (-53 : Int) + (k + 53 : Nat) = k by omega]
  exact unpack_pack hm hm' (by omega) (by omega)

theorem IsExact.isPositive (h : IsExact n) (hn : 0 < n) : IsPositive (Float.ofNat n) := by
  rcases h with hlt | ⟨m, k, rfl, hm, hm', hk⟩
  case inl => exact isPositive_ofNat_of_lt hn hlt
  case inr =>
    rcases Nat.eq_zero_or_pos k with rfl | hpos
    case inl => exact isPositive_ofNat_of_lt hn (by simpa using hm')
    case inr => exact isPositive_ofNat_mul hm hm' hpos hk

theorem isFinite_ofInt (h : IsExact i.natAbs) : (Float.ofInt i).isFinite = true := by
  cases i
  case ofNat n =>
    rcases Nat.eq_zero_or_pos n with rfl | hn
    case inl => decide
    case inr => exact (h.isPositive hn).isFinite
  case negSucc n => exact (h.isPositive n.succ_pos).isFinite_neg

theorem isExact_floor {m : Magnitude} (hm : m.IsCanonical) : IsExact m.floor := by
  have ⟨hleast, hgreatest, hshort, hleading⟩ := hm
  unfold Magnitude.floor
  split
  case isTrue he =>
    rw [Nat.shiftLeft_eq]
    exact .inr ⟨m.mantissa, m.exponent.toNat, rfl, by omega, hshort, by omega⟩
  case isFalse =>
    rw [Nat.shiftRight_eq_div_pow]
    exact .inl ((Nat.div_le_self ..).trans_lt hshort)

theorem isFinite_truncate (hf : f.isFinite = true) : (Float.ofInt (truncate f)).isFinite = true := by
  refine isFinite_ofInt ?_
  have hnat : (truncate f).natAbs = (Magnitude.ofFloat f).floor := by
    unfold truncate withSignOf
    split <;> simp
  rw [hnat]
  exact isExact_floor (canonical_ofFloat hf)

/-! ### Less than 64 bits -/

-- The number above the greatest integer of 64 bits with a sign.
theorem unpack_two_pow :
    (Float.ofNat 0x8000000000000000).toModel.unpack = .finite .positive (2 ^ 52) 11 (by decide) := by
  have hshift : 0x8000000000000000 <<< 53 * 10 ^ 0 = 2 ^ 52 * 2 ^ 64 := by decide
  rw [toModel_ofNat_of_le (by decide), hshift, roundWithAccuracy_exact (by decide) (by decide) (by decide)]
  exact unpack_pack (by decide) (by decide) (by decide) (by decide)

theorem unpack_abs (hf : f.isFinite = true) (hm : 0 < (Magnitude.ofFloat f).mantissa) :
    f.abs.toModel.unpack = .finite .positive (Magnitude.ofFloat f).mantissa (Magnitude.ofFloat f).exponent hm := by
  rcases unpack_of_isFinite hf with ⟨_, hz⟩ | ⟨_, hu⟩
  case inl => omega
  case inr =>
    show (Float.Model.pack (abs f.toModel.unpack)).unpack = _
    rw [hu]
    exact (canonical_ofFloat hf).unpack_pack

theorem floor_lt_of_abs_lt (hf : f.isFinite = true) (h : f.abs < Float.ofNat 0x8000000000000000) :
    (Magnitude.ofFloat f).floor < 2 ^ 63 := by
  have hshort := (canonical_ofFloat hf).short
  rcases Nat.eq_zero_or_pos (Magnitude.ofFloat f).mantissa with hz | hpos
  case inl =>
    unfold Magnitude.floor
    simp [hz]
  case inr =>
    rw [lt_iff, unpack_abs hf hpos, unpack_two_pow] at h
    generalize Magnitude.ofFloat f = m at *
    -- Floats are compared by their exponents first.
    have hless : m.exponent < 11 ∨ m.exponent = 11 ∧ m.mantissa < 2 ^ 52 := by
      have h : (compare m.exponent 11).then (compare m.mantissa (2 ^ 52)) = .lt := by
        simpa [UnpackedFloat.lt, UnpackedFloat.compare] using h
      rw [Ordering.then_eq_lt, Int.compare_eq_lt, Int.compare_eq_eq, Nat.compare_eq_lt] at h
      exact h
    unfold Magnitude.floor
    split
    case isTrue he =>
      obtain ⟨k, hk⟩ := Int.eq_ofNat_of_zero_le he
      rw [hk, Int.toNat_natCast, Nat.shiftLeft_eq]
      rw [hk] at hless
      rcases hless with hk | ⟨hk, hm⟩
      · calc m.mantissa * 2 ^ k < 2 ^ 53 * 2 ^ k := Nat.mul_lt_mul_of_pos_right hshort (by positivity)
          _ ≤ 2 ^ 53 * 2 ^ 10 := Nat.mul_le_mul_left _ (Nat.pow_le_pow_right (by decide) (by omega))
      · obtain rfl : k = 11 := by omega
        omega
    case isFalse =>
      rw [Nat.shiftRight_eq_div_pow]
      have := Nat.div_le_self m.mantissa (2 ^ (-m.exponent).toNat)
      omega

end FormModel
