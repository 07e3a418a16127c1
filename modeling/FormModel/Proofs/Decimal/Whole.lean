import Mathlib
import FormModel.Context.Build
import FormModel.Json.Order

/-!
Whole numbers as floats.  A finite float is taken apart into its sign, its mantissa and its exponent; a number of at
most 53 bits is the same number as a float, and a longer one is rounded to one that is as long.  So a count that is
read off a whole number is that number, or at least as great as all numbers that have to be exact.
-/

namespace FormModel

open Float.Model (UnpackedFloat Format totalExponent)
open Float.Model.UnpackedFloat

section Bits

variable {b : BitVec 64}

theorem toNat_unpackMantissa : (@unpackMantissa .binary64 b).toNat = b.toNat % 2 ^ 52 := by
  simp [unpackMantissa]

theorem toNat_unpackExponent : (@unpackExponent .binary64 b).toNat = b.toNat / 2 ^ 52 % 2 ^ 11 := by
  simp [unpackExponent, Nat.shiftRight_eq_div_pow]

-- The bit before the fraction, which is not written.
theorem toNat_one_append {v : BitVec 52} : (1#1 ++ v).toNat = v.toNat + 2 ^ 52 := by
  rw [BitVec.toNat_append, ← Nat.shiftLeft_add_eq_or_of_lt v.isLt, Nat.add_comm]
  rfl

theorem toNat_unpackSign : (@unpackSign .binary64 b).toNat = b.toNat / 2 ^ 63 := by
  have := b.isLt
  simp [unpackSign, Nat.shiftRight_eq_div_pow]
  omega

end Bits

-- The sign of a float, which a zero has as well.
def signOf (f : Float) : Sign := if isSigned f then .negative else .positive

variable {f : Float}

theorem signOf_eq : Sign.ofBitVec (@unpackSign .binary64 f.toBits.toBitVec) = signOf f := by
  have hs := toNat_unpackSign (b := f.toBits.toBitVec)
  have hlt : f.toBits.toBitVec.toNat < 2 ^ 64 := f.toBits.toBitVec.isLt
  rw [signOf, isSigned, Sign.ofBitVec]
  change _ = f.toBits.toNat / 2 ^ 63 at hs
  change f.toBits.toNat < _ at hlt
  simp only [← BitVec.toNat_inj, hs, beq_iff_eq]
  change (if f.toBits.toNat / 2 ^ 63 = 0 then _ else _) = _
  split <;> split <;> first | rfl | omega

-- A finite float is taken apart into its sign and its size.
theorem unpack_of_isFinite (hf : f.isFinite = true) :
    (f.toModel.unpack = .zero (signOf f) ∧ (Magnitude.ofFloat f).mantissa = 0) ∨
      ∃ hm, f.toModel.unpack = .finite (signOf f) (Magnitude.ofFloat f).mantissa (Magnitude.ofFloat f).exponent hm := by
  have hm := toNat_unpackMantissa (b := f.toBits.toBitVec)
  have he := toNat_unpackExponent (b := f.toBits.toBitVec)
  change _ = f.toBits.toNat % 2 ^ 52 at hm
  change _ = f.toBits.toNat / 2 ^ 52 % 2 ^ 11 at he
  change UnpackedFloat.isFinite (unpack .binary64 f.toBits.toBitVec) = true at hf
  change (unpack .binary64 f.toBits.toBitVec = _ ∧ _) ∨ ∃ hm, unpack .binary64 f.toBits.toBitVec = _
  have hbias : Format.binary64.exponentBias = 1023 := rfl
  unfold unpack at hf ⊢
  simp only [signOf_eq] at hf ⊢
  split at hf
  case isTrue => split at hf <;> contradiction
  case isFalse hn =>
    simp only [if_neg hn]
    by_cases hw : @unpackExponent .binary64 f.toBits.toBitVec = 0#_
    case pos =>
      have hb : f.toBits.toNat / 2 ^ 52 % 2 ^ 11 = 0 := by rw [← he, hw]; rfl
      have hf : Magnitude.ofFloat f = ⟨f.toBits.toNat % 2 ^ 52, -1074⟩ := if_pos hb
      simp only [if_pos hw, hf]
      by_cases hv : @unpackMantissa .binary64 f.toBits.toBitVec = 0#_
      case pos =>
        left
        exact ⟨dif_pos hv, by rw [← hm, hv]; rfl⟩
      case neg =>
        right
        refine ⟨Nat.pos_of_ne_zero fun hz => hv (BitVec.eq_of_toNat_eq (hm.trans hz)), ?_⟩
        simp only [dif_neg hv, he, hb, hm]
        rfl
    case neg =>
      right
      have hb : f.toBits.toNat / 2 ^ 52 % 2 ^ 11 ≠ 0 := fun hz => hw (BitVec.eq_of_toNat_eq (he.trans hz))
      have hf : Magnitude.ofFloat f =
          ⟨f.toBits.toNat % 2 ^ 52 + 2 ^ 52, ((f.toBits.toNat / 2 ^ 52 % 2 ^ 11 : Nat) : Int) - 1075⟩ := if_neg hb
      simp only [if_neg hw, hf]
      refine ⟨Nat.add_pos_right _ (by decide), ?_⟩
      simp only [toNat_one_append, hm, he]
      rfl

section Rounding

variable {em : ExtendedMantissa} {s : Sign} {m n k : Nat} {e : Int}

theorem mantissa_shiftRight : (em >>> k).mantissa = em.mantissa / 2 ^ k := by
  induction k
  case zero => simp [HShiftRight.hShiftRight, Nat.repeat]
  case succ k hi =>
    show (em >>> k).mantissa / 2 = _
    rw [hi, Nat.div_div_eq_div_mul, Nat.pow_succ]

-- Where only zeros are shifted out, nothing is lost.
theorem shiftRight_exact : (⟨m * 2 ^ k, false, false⟩ : ExtendedMantissa) >>> k = ⟨m, false, false⟩ := by
  induction k generalizing m
  case zero => simp [HShiftRight.hShiftRight, Nat.repeat]
  case succ k hi =>
    show ((⟨m * 2 ^ (k + 1), false, false⟩ : ExtendedMantissa) >>> k).shiftRightOne = _
    rw [Nat.pow_succ', ← Nat.mul_assoc, hi]
    simp [ExtendedMantissa.shiftRightOne]

theorem roundedMantissa_bounds : em.mantissa ≤ em.roundedMantissa ∧ em.roundedMantissa ≤ em.mantissa + 1 := by
  obtain ⟨m, r, s⟩ := em
  cases r <;> cases s <;>
    simp [ExtendedMantissa.roundedMantissa, ExtendedMantissa.accuracy, Accuracy.roundToNearestEven]
  omega

theorem log2_mul_two_pow (hn : 0 < n) : (n * 2 ^ k).log2 = n.log2 + k := by
  refine (Nat.log2_eq_iff (by positivity)).mpr ⟨?_, ?_⟩
  · rw [Nat.pow_add]
    exact Nat.mul_le_mul_right _ (Nat.log2_self_le hn.ne')
  · rw [show n.log2 + k + 1 = n.log2 + 1 + k by omega, Nat.pow_add]
    exact Nat.mul_lt_mul_of_pos_right Nat.lt_log2_self (by positivity)

theorem log2_eq_of_normal (hm : 2 ^ 52 ≤ m) (hm' : m < 2 ^ 53) : m.log2 = 52 :=
  (Nat.log2_eq_iff (by omega)).mpr ⟨hm, hm'⟩

-- What is too long by `k` bits is shifted right by `k`.
theorem shiftToTargetExponent_of_log2 (hn : n.log2 = 52 + k) (he : -1074 ≤ e + k) :
    shiftToTargetExponent .binary64 n e .exact = ((⟨n, false, false⟩ : ExtendedMantissa) >>> k, e + k) := by
  have ht : Format.binary64.targetExponent (totalExponent n e) = e + k := by
    simp only [Format.targetExponent, totalExponent, Format.mantissaBits, Format.minExponent, hn]
    omega
  simp [shiftToTargetExponent, shiftToExponent, ht, ExtendedMantissa.ofMantissaAndAccuracy]

theorem shiftToTargetExponent_of_normal (hm : 2 ^ 52 ≤ m) (hm' : m < 2 ^ 53) (he : -1074 ≤ e) :
    shiftToTargetExponent .binary64 m e .exact = (⟨m, false, false⟩, e) := by
  have := shiftToTargetExponent_of_log2 (k := 0) (e := e) (log2_eq_of_normal hm hm') (by simpa using he)
  simpa [HShiftRight.hShiftRight, Nat.repeat] using this

-- A number that fits is kept as it is.
theorem roundWithAccuracy_exact (hm : 2 ^ 52 ≤ m) (hm' : m < 2 ^ 53) (he : -1074 ≤ e + k) :
    roundWithAccuracy .binary64 s (m * 2 ^ k) e .exact = .finite s m (e + k) (by omega) := by
  have hlog : (m * 2 ^ k).log2 = 52 + k := by rw [log2_mul_two_pow (by omega), log2_eq_of_normal hm hm']
  have hfirst := shiftToTargetExponent_of_log2 hlog he
  rw [shiftRight_exact] at hfirst
  have hrounded : (⟨m, false, false⟩ : ExtendedMantissa).roundedMantissa = m := rfl
  unfold roundWithAccuracy
  simp only [hfirst, hrounded, shiftToTargetExponent_of_normal hm hm' he]
  rw [dif_neg (by omega)]

-- A number that is too long by `k` bits is rounded to one that fits, of which the exponent may be greater by one.
theorem exists_roundWithAccuracy (hn : n.log2 = 52 + k) (he : -1074 ≤ e + k) :
    ∃ m e' hm, roundWithAccuracy .binary64 s n e .exact = .finite s m e' hm ∧
      2 ^ 52 ≤ m ∧ m < 2 ^ 53 ∧ e + k ≤ e' ∧ e' ≤ e + k + 1 := by
  have hn0 : n ≠ 0 := by
    rintro rfl
    simp at hn
    omega
  have ⟨hl, hu⟩ := (Nat.log2_eq_iff hn0).mp hn
  have hfirst := shiftToTargetExponent_of_log2 hn he
  have hmantissa : ((⟨n, false, false⟩ : ExtendedMantissa) >>> k).mantissa = n / 2 ^ k := mantissa_shiftRight
  have ⟨hr, hr'⟩ := @roundedMantissa_bounds ((⟨n, false, false⟩ : ExtendedMantissa) >>> k)
  rw [hmantissa] at hr hr'
  have hlow : 2 ^ 52 ≤ n / 2 ^ k := (Nat.le_div_iff_mul_le (by positivity)).mpr (by rwa [← Nat.pow_add])
  have hhigh : n / 2 ^ k < 2 ^ 53 := by
    refine Nat.div_lt_of_lt_mul ?_
    rwa [← Nat.pow_add, show k + 53 = 52 + k + 1 by omega]
  unfold roundWithAccuracy
  simp only [hfirst]
  obtain ⟨r, hround⟩ : ∃ r, ((⟨n, false, false⟩ : ExtendedMantissa) >>> k).roundedMantissa = r := ⟨_, rfl⟩
  simp only [hround] at hr hr' ⊢
  rcases Nat.lt_or_ge r (2 ^ 53) with hlt | hge
  case inl =>
    simp only [shiftToTargetExponent_of_normal (hlow.trans hr) hlt he]
    exact ⟨r, e + k, by omega, dif_neg (by omega), by omega, hlt, by omega, by omega⟩
  case inr =>
    -- Rounding up has carried into one more bit.
    obtain rfl : r = 2 ^ 52 * 2 ^ 1 := by omega
    have hlog : (2 ^ 52 * 2 ^ 1).log2 = 52 + 1 := by rw [log2_mul_two_pow (by decide), Nat.log2_two_pow]
    simp only [shiftToTargetExponent_of_log2 hlog (show -1074 ≤ e + k + (1 : Nat) by omega), shiftRight_exact]
    exact ⟨2 ^ 52, e + k + 1, by decide, dif_neg (by decide), by decide, by decide, by omega, by omega⟩

theorem unpack_pack {hp : 0 < m} (hm : 2 ^ 52 ≤ m) (hm' : m < 2 ^ 53) (he : -1074 ≤ e) (he' : e ≤ 971) :
    (Float.Model.pack (.finite s m e hp)).unpack = .finite s m e hp := by
  have hbias : Format.binary64.exponentBias = 1023 := rfl
  obtain ⟨biased, hb⟩ : ∃ biased : Nat, e + 1023 + 52 = biased := ⟨(e + 1023 + 52).toNat, by omega⟩
  have hpack : pack .binary64 (.finite s m e hp) = packComponents .binary64 s (.ofNat 11 biased) (.ofNat 52 m) := by
    have hlog : m.log2 + 1 = Format.binary64.mantissaBits := by rw [log2_eq_of_normal hm hm']; rfl
    unfold pack
    simp only [hbias, if_pos hlog]
    rw [if_neg (by omega)]
    congr 3
    omega
  have hexponent : (BitVec.ofNat 11 biased).toNat = biased := by
    rw [BitVec.toNat_ofNat, Nat.mod_eq_of_lt (by omega)]
  have hne : BitVec.ofNat 11 biased ≠ 0#11 := fun h => by
    have := congrArg BitVec.toNat h
    rw [hexponent] at this
    change biased = 0 at this
    omega
  have hne' : BitVec.ofNat 11 biased ≠ -1#11 := fun h => by
    have := congrArg BitVec.toNat h
    rw [hexponent] at this
    change biased = 2047 at this
    omega
  have hmantissa : (1#1 ++ BitVec.ofNat 52 m).toNat = m := by
    rw [toNat_one_append, BitVec.toNat_ofNat]
    omega
  show unpack .binary64 (pack .binary64 (.finite s m e hp)) = _
  rw [hpack]
  unfold unpack
  simp only [unpackMantissa_packComponents, unpackExponent_packComponents, unpackSign_packComponents, Sign.ofBitVec_toBitVec,
    if_neg hne, if_neg hne', hmantissa, hexponent, hbias]
  congr 1
  omega

-- A size of fewer bits, which only the smallest places have.
theorem unpack_pack_least {hp : 0 < m} (hm : m < 2 ^ 52) :
    (Float.Model.pack (.finite s m (-1074) hp)).unpack = .finite s m (-1074) hp := by
  have hbias : Format.binary64.exponentBias = 1023 := rfl
  have hlog : ¬m.log2 + 1 = Format.binary64.mantissaBits := by
    have := (Nat.log2_lt hp.ne').mpr hm
    change ¬m.log2 + 1 = 53
    omega
  have hpack : pack .binary64 (.finite s m (-1074) hp) = packComponents .binary64 s 0#11 (.ofNat 52 m) := by
    unfold pack
    simp only [hbias, if_neg hlog]
    rfl
  have hmantissa : (BitVec.ofNat 52 m).toNat = m := by
    rw [BitVec.toNat_ofNat, Nat.mod_eq_of_lt hm]
  have hne : BitVec.ofNat 52 m ≠ 0#52 := fun h => by
    have := congrArg BitVec.toNat h
    rw [hmantissa] at this
    exact hp.ne' this
  have hne' : 0#11 ≠ -1#11 := by decide
  show unpack .binary64 (pack .binary64 (.finite s m (-1074) hp)) = _
  rw [hpack]
  unfold unpack
  simp only [unpackMantissa_packComponents, unpackExponent_packComponents, unpackSign_packComponents, Sign.ofBitVec_toBitVec,
    if_neg hne', if_true, dif_neg hne, hmantissa, hbias]
  rfl

theorem unpack_zero : (0 : Float).toModel.unpack = .zero .positive := by
  have : (0 : Float) = .ofBits 0 := rfl
  rw [this]
  rfl

theorem unpack_one : (Float.ofBits 0x3FF0000000000000).toModel.unpack = .finite .positive (2 ^ 52) (-52) (by decide) := by
  rfl

theorem mul_finite {s₁ s₂ : Sign} {m₁ m₂ : Nat} {e₁ e₂ : Int} {h₁ : 0 < m₁} {h₂ : 0 < m₂} :
    mul .binary64 (.finite s₁ m₁ e₁ h₁) (.finite s₂ m₂ e₂ h₂) =
      roundWithAccuracy .binary64 (s₁ * s₂) (m₁ * m₂) (e₁ + e₂) .exact := rfl

theorem unpack_mul {f g : Float.Model} : (f * g) = .pack (mul .binary64 f.unpack g.unpack) := rfl

-- A number of at most 53 bits as a float: it is written with 53 bits, and stays what it is.
theorem unpack_toFloat {n : Nat} (hn : 0 < n) (hlt : n < 2 ^ 53) :
    ∃ (k : Nat) (hm : 0 < n * 2 ^ k), k ≤ 52 ∧ 2 ^ 52 ≤ n * 2 ^ k ∧ n * 2 ^ k < 2 ^ 53 ∧
      n.toUInt64.toFloat.toModel.unpack = .finite .positive (n * 2 ^ k) (-k) hm := by
  have hlog : n.log2 ≤ 52 := by
    have := (Nat.log2_lt hn.ne').mpr hlt
    omega
  obtain ⟨k, hk⟩ : ∃ k, 52 = n.log2 + k := ⟨52 - n.log2, by omega⟩
  have hpos : 0 < n * 2 ^ k := by positivity
  have ⟨hlow, hhigh⟩ := (Nat.log2_eq_iff hpos.ne').mp ((log2_mul_two_pow hn).trans hk.symm)
  refine ⟨k, hpos, by omega, hlow, hhigh, ?_⟩
  have htarget : Format.binary64.targetExponent (totalExponent n 0) = -k := by
    simp only [Format.targetExponent, totalExponent, Format.mantissaBits, Format.minExponent]
    omega
  have hround : UnpackedFloat.round .binary64 .positive n 0 = .finite .positive (n * 2 ^ k) (-k) hpos := by
    unfold UnpackedFloat.round
    simp only [htarget, decreaseExponent]
    rw [show ((0 : Int) - -k).toNat = k by omega, Nat.shiftLeft_eq, show (0 : Int) - (k : Nat) = -k by omega]
    simpa using roundWithAccuracy_exact (s := .positive) (k := 0) (e := -k) hlow hhigh (by omega)
  have hnat : n.toUInt64.toNat = n := Nat.mod_eq_of_lt (by omega : n < 2 ^ 64)
  have hcompare : compare (n : Int) 0 = .gt := Int.compare_eq_gt.mpr (by omega)
  show (Float.Model.pack (UnpackedFloat.normalize .binary64 (n.toUInt64.toNat : Int) 0 .positive)).unpack = _
  rw [hnat, UnpackedFloat.normalize, hcompare]
  show (Float.Model.pack (UnpackedFloat.round .binary64 .positive (n : Int).toNat 0)).unpack = _
  rw [Int.toNat_natCast, hround, unpack_pack hlow hhigh (by omega) (by omega)]

-- A number of more than 53 bits is rounded.
theorem toModel_ofNat_of_le {n : Nat} (hn : 2 ^ 53 ≤ n) :
    (Float.ofNat n).toModel = .pack (roundWithAccuracy .binary64 .positive (n <<< 53 * 10 ^ 0) (-53) .exact) := by
  show (Float.ofScientific n false 0).toModel = _
  rw [Float.ofScientific, dif_neg (by omega)]
  show Float.Model.pack (ofScientific .binary64 n 0) = _
  have hcapacity : (0 : Int) ≤ 2 ^ Format.binary64.exponentBits := by positivity
  rw [ofScientific, dif_neg (by omega), if_neg (by omega), if_neg (by omega), if_pos (by decide), mul_finite]
  rfl

-- A positive number as a float: what it comes to is exact if it has at most 53 bits.
theorem exists_unpack_ofNat (hn : 0 < n) (hn' : n < 2 ^ 64) :
    ∃ m e hm, (Float.ofNat n).toModel.unpack = .finite .positive m e hm ∧ 2 ^ 52 ≤ m ∧ m < 2 ^ 53 ∧
      ((∃ k : Nat, e = -k ∧ m = n * 2 ^ k) ∨ (1 ≤ e ∧ 2 ^ 53 ≤ n)) := by
  rcases Nat.lt_or_ge n (2 ^ 53) with hlt | hge
  case inl =>
    obtain ⟨k, hm, hk, hlow, hhigh, hu⟩ := unpack_toFloat hn hlt
    have hmul : (Float.ofNat n).toModel = n.toUInt64.toFloat.toModel * (Float.ofBits 0x3FF0000000000000).toModel := by
      show (Float.ofScientific n false 0).toModel = _
      rw [Float.ofScientific, dif_pos ⟨hlt, by omega⟩]
      rfl
    refine ⟨n * 2 ^ k, -k, hm, ?_, hlow, hhigh, .inl ⟨k, rfl, rfl⟩⟩
    rw [hmul, unpack_mul, hu, unpack_one]
    show (Float.Model.pack (roundWithAccuracy .binary64 .positive (n * 2 ^ k * 2 ^ 52) (-k + -52) .exact)).unpack = _
    rw [roundWithAccuracy_exact hlow hhigh (by omega), show (-k + -52 + (52 : Nat) : Int) = -k by omega,
      unpack_pack hlow hhigh (by omega) (by omega)]
  case inr =>
    have hlog : 53 ≤ n.log2 := (Nat.le_log2 hn.ne').mpr hge
    have hlog' : n.log2 < 64 := (Nat.log2_lt hn.ne').mpr hn'
    have hlong : (n <<< 53 * 10 ^ 0).log2 = 52 + (n.log2 + 1) := by
      rw [Nat.pow_zero, Nat.mul_one, Nat.shiftLeft_eq, log2_mul_two_pow hn]
      omega
    have ⟨m, e, hm, hr, hlow, hhigh, he, he'⟩ :=
      exists_roundWithAccuracy (s := .positive) (e := -53) hlong (by omega)
    refine ⟨m, e, hm, ?_, hlow, hhigh, .inr ⟨by omega, hge⟩⟩
    rw [toModel_ofNat_of_le hge, hr, unpack_pack hlow hhigh (by omega) (by omega)]

end Rounding

section Count

variable {m n a : Nat} {e : Int}

theorem le_iff {f g : Float} : f ≤ g ↔ f.toModel.unpack.le g.toModel.unpack = true := decide_eq_true_iff

theorem lt_iff {f g : Float} : f < g ↔ f.toModel.unpack.lt g.toModel.unpack = true := decide_eq_true_iff

theorem nonneg_of_unpack (h : f.toModel.unpack = .zero (signOf f) ∨ ∃ m e hm, f.toModel.unpack = .finite .positive m e hm) :
    0 ≤ f := by
  rw [le_iff, unpack_zero]
  rcases h with h | ⟨m, e, hm, h⟩ <;> rw [h] <;> rfl

-- A positive float is what its parts say.
theorem ofFloat_of_unpack {hm : 0 < m} (h : f.toModel.unpack = .finite .positive m e hm) :
    f.isFinite = true ∧ isSigned f = false ∧ Magnitude.ofFloat f = ⟨m, e⟩ := by
  have hf : f.isFinite = true := by
    show f.toModel.unpack.isFinite = true
    rw [h]
    rfl
  rcases unpack_of_isFinite hf with ⟨hz, _⟩ | ⟨hm', hu⟩
  case inl => exact nomatch h.symm.trans hz
  case inr =>
    obtain ⟨hs, rfl, rfl⟩ := UnpackedFloat.finite.inj (h.symm.trans hu)
    refine ⟨hf, ?_, rfl⟩
    unfold signOf at hs
    split at hs
    case isTrue => contradiction
    case isFalse hn => simpa using hn

theorem toCount_of_unpack {hm : 0 < m} (h : f.toModel.unpack = .finite .positive m e hm) :
    toCount f = min (Magnitude.floor ⟨m, e⟩) 0xffffffffffffffff := by
  have ⟨hf, hs, ho⟩ := ofFloat_of_unpack h
  simp [toCount, hf, truncate, withSignOf, hs, ho]

-- A count is exact up to 53 bits, and a longer one stays longer.
def CountsAs (a n : Nat) : Prop := n = a ∨ (2 ^ 53 ≤ a ∧ 2 ^ 53 ≤ n)

theorem countsAs_ofNat (hn : n < 2 ^ 64) : 0 ≤ Float.ofNat n ∧ CountsAs n (toCount (Float.ofNat n)) := by
  rcases Nat.eq_zero_or_pos n with rfl | hpos
  case inl => exact ⟨by decide, .inl rfl⟩
  case inr =>
    have ⟨m, e, hm, hu, hlow, hhigh, hv⟩ := exists_unpack_ofNat hpos hn
    refine ⟨nonneg_of_unpack (.inr ⟨m, e, hm, hu⟩), ?_⟩
    rw [toCount_of_unpack hu]
    rcases hv with ⟨k, rfl, rfl⟩ | ⟨he, hge⟩
    case inl =>
      have hfloor : Magnitude.floor ⟨n * 2 ^ k, -k⟩ = n := by
        unfold Magnitude.floor
        dsimp only
        split
        case isTrue hk =>
          obtain rfl : k = 0 := by omega
          simp
        case isFalse => simp [Nat.shiftRight_eq_div_pow]
      left
      rw [hfloor]
      omega
    case inr =>
      have hfloor : 2 ^ 53 ≤ Magnitude.floor ⟨m, e⟩ := by
        unfold Magnitude.floor
        dsimp only
        rw [if_pos (by omega), Nat.shiftLeft_eq]
        calc 2 ^ 53 = 2 ^ 52 * 2 ^ 1 := by decide
          _ ≤ m * 2 ^ e.toNat := Nat.mul_le_mul hlow (Nat.pow_le_pow_right (by decide) (by omega))
      exact .inr ⟨hge, by omega⟩

-- A whole number less than one is zero.
theorem mantissa_eq_zero {m : Magnitude} (hw : m.isWhole = true) (hf : m.floor = 0) : m.mantissa = 0 := by
  unfold Magnitude.isWhole at hw
  unfold Magnitude.floor at hf
  split at hf
  case isTrue => simpa [Nat.shiftLeft_eq] using hf
  case isFalse he =>
    simp only [he, decide_false, Bool.false_or, beq_iff_eq, Nat.one_shiftLeft] at hw
    rw [Nat.shiftRight_eq_div_pow] at hf
    rw [← Nat.div_add_mod m.mantissa (2 ^ (-m.exponent).toNat), hw, hf]
    rfl

theorem countsAs_of_isWhole (hf : isWhole f = true) (ht : truncate f = a) : 0 ≤ f ∧ CountsAs a (toCount f) := by
  obtain ⟨hfin, hwhole⟩ := Bool.and_eq_true_iff.mp hf
  refine ⟨nonneg_of_unpack ?_, ?_⟩
  case refine_1 =>
    rcases unpack_of_isFinite hfin with ⟨hz, _⟩ | ⟨hm, hu⟩
    case inl => exact .inl hz
    case inr =>
      have hs : isSigned f = false := by
        by_contra hs
        rw [Bool.not_eq_false] at hs
        have hfloor : (Magnitude.ofFloat f).floor = 0 := by
          simp only [truncate, withSignOf, hs, if_true] at ht
          omega
        exact hm.ne' (mantissa_eq_zero hwhole hfloor)
      rw [signOf, hs] at hu
      exact .inr ⟨_, _, hm, hu⟩
  case refine_2 =>
    rw [toCount, if_pos hfin, ht, Int.toNat_natCast]
    unfold CountsAs
    omega

-- A keyword with a whole number gives a count.
theorem countOf?_of_whole {node : Dict Json} {key : String} {x : Number} (hg : node.get? key = some (.num x))
    (hx : x.whole? = some (a : Int)) : ∃ n, Builder.countOf? node key = some n ∧ CountsAs a n := by
  have hcount : 0 ≤ x.toFloat ∧ CountsAs a (toCount x.toFloat) := by
    cases x
    case int i hi =>
      obtain rfl : i = a := Option.some.inj hx
      exact countsAs_ofNat (by omega)
    case float f hf =>
      simp only [Number.whole?, Option.ite_none_right_eq_some, Option.some.injEq] at hx
      exact countsAs_of_isWhole hx.1 hx.2
  refine ⟨toCount x.toFloat, ?_, hcount.2⟩
  simp [Builder.countOf?, hg, Json.float?, Option.filter, hcount.1]

end Count

end FormModel
