import FormModel.Decimal.Reading
import FormModel.Proofs.Decimal.Rounding

/-!
Decimal numbers as floats.  A number of few digits is a product or a quotient of two floats that are exact, any other is
calculated in integers; in both ways it is rounded once, so the float that is read is the one that the number rounds to.
-/

namespace FormModel

open Float.Model (UnpackedFloat Format)
open Float.Model.UnpackedFloat

section Parts

variable {f g : Float}

theorem toModel_eq_pack : f.toModel = .pack f.toModel.unpack := by
  obtain ⟨⟨bits, hbits⟩⟩ := f
  show Float.Model.mk bits hbits = Float.Model.mk _ _
  congr 1
  exact congrArg UInt64.ofBitVec (pack_unpack_of_valid hbits (by decide)).symm

-- A float is what its parts are packed to.
theorem eq_of_toModel_eq_pack (hf : f.toModel = .pack g.toModel.unpack) : f = g := by
  rw [← toModel_eq_pack] at hf
  cases f
  cases g
  exact congrArg Float.ofModel hf

end Parts

namespace Magnitude

variable {m : Magnitude} {q : ℚ} {n e : Nat} {x : Int} {negative : Bool}

/-! ### Powers of ten -/

-- The powers of ten that are floats exactly.
theorem powersOfTen_exact : ∀ e (he : e < 23),
    (Float.exactlyRepresentablePowersOfTen[e]).isFinite ∧
      isSigned (Float.exactlyRepresentablePowersOfTen[e]) = false ∧
      2 ^ 52 ≤ (ofFloat (Float.exactlyRepresentablePowersOfTen[e])).mantissa ∧
      (ofFloat (Float.exactlyRepresentablePowersOfTen[e])).mantissa *
          2 ^ (ofFloat (Float.exactlyRepresentablePowersOfTen[e])).exponent.toNat =
        10 ^ e * 2 ^ (-(ofFloat (Float.exactlyRepresentablePowersOfTen[e])).exponent).toNat := by
  decide

theorem exists_unpack_powerOfTen (he : e < 23) : ∃ (p : Nat) (x : Int) (hp : 0 < p),
    (Float.exactlyRepresentablePowersOfTen[e]).toModel.unpack = .finite .positive p x hp ∧ 2 ^ 52 ≤ p ∧
      (p : ℚ) * 2 ^ x = 10 ^ e := by
  have ⟨hfinite, hsign, hlong, heq⟩ := powersOfTen_exact e he
  generalize Float.exactlyRepresentablePowersOfTen[e] = power at *
  rcases unpack_of_isFinite hfinite with ⟨_, hz⟩ | ⟨hp, hu⟩
  case inl => omega
  case inr =>
    rw [signOf, hsign] at hu
    refine ⟨_, _, hp, hu, hlong, ?_⟩
    rw [zpow_eq_div, ← mul_div_assoc, div_eq_iff (by positivity)]
    exact_mod_cast heq

/-! ### How great a number is that rounds to a float -/

theorem IsCanonical.bounds_of_roundsFrom (hm : m.IsCanonical) (hpos : 0 < m.mantissa) (hq : m.RoundsFrom q) :
    2 ^ (-1075 : Int) ≤ q ∧ q < 2 ^ (1024 : Int) := by
  have hleast := hm.least
  have hgreatest := hm.greatest
  have hshort := hm.short
  have ⟨hlow, hhigh⟩ := hq.bounds
  have hunit : (0 : ℚ) < 2 ^ (m.exponent - 2) := by positivity
  rw [le_div_iff₀ hunit] at hlow
  rw [div_le_iff₀ hunit] at hhigh
  have htwo : (2 : ℚ) ≤ (RoundingInterval.ofMagnitude m).low := by
    exact_mod_cast (by have := m.le_low; omega : 2 ≤ (RoundingInterval.ofMagnitude m).low)
  have hmax : ((RoundingInterval.ofMagnitude m).high : ℚ) < 2 ^ 55 := by
    exact_mod_cast (by simp only [RoundingInterval.ofMagnitude]; omega : (RoundingInterval.ofMagnitude m).high < 2 ^ 55)
  constructor
  · calc (2 : ℚ) ^ (-1075 : Int) ≤ 2 ^ (1 + (m.exponent - 2)) := zpow_le_zpow_right₀ (by norm_num) (by omega)
      _ = 2 * 2 ^ (m.exponent - 2) := zpow_one_add₀ two_ne_zero _
      _ ≤ _ := mul_le_mul_of_nonneg_right htwo hunit.le
      _ ≤ q := hlow
  · calc q ≤ _ := hhigh
      _ < 2 ^ 55 * 2 ^ (m.exponent - 2) := mul_lt_mul_of_pos_right hmax hunit
      _ = 2 ^ (55 + (m.exponent - 2)) := by rw [zpow_add₀ two_ne_zero]; rfl
      _ ≤ 2 ^ (1024 : Int) := zpow_le_zpow_right₀ (by norm_num) (by omega)

-- The number of digits is what places a number among the powers of ten.
theorem length_toDigits_bounds (hn : 0 < n) :
    10 ^ ((Nat.toDigits 10 n).length - 1) ≤ n ∧ n < 10 ^ (Nat.toDigits 10 n).length := by
  have hlen : 0 < (Nat.toDigits 10 n).length := Nat.length_toDigits_pos
  refine ⟨?_, (Nat.length_toDigits_le_iff (by decide) hlen).mp le_rfl⟩
  rcases Nat.eq_zero_or_pos ((Nat.toDigits 10 n).length - 1) with hz | hpos
  case inl => rw [hz]; exact hn
  case inr =>
    by_contra hlt
    have := (Nat.length_toDigits_le_iff (by decide) hpos).mpr (Nat.lt_of_not_le hlt)
    omega

theorem two_zpow_le_ten_zpow {x y : Int} (hy : 0 ≤ y) (h : x ≤ 3 * y) : (2 : ℚ) ^ x ≤ 10 ^ y :=
  calc (2 : ℚ) ^ x ≤ 2 ^ (3 * y) := zpow_le_zpow_right₀ (by norm_num) h
    _ = (2 ^ (3 : Int)) ^ y := zpow_mul ..
    _ ≤ 10 ^ y := zpow_le_zpow_left₀ hy (by norm_num) (by norm_num)

theorem IsCanonical.size_of_roundsFrom (hm : m.IsCanonical) (hpos : 0 < m.mantissa) (hn : 0 < n)
    (hq : m.RoundsFrom (n * 10 ^ x)) :
    -400 ≤ (Nat.toDigits 10 n).length + x ∧ (Nat.toDigits 10 n).length + x ≤ 400 := by
  have ⟨hleast, hgreatest⟩ := hm.bounds_of_roundsFrom hpos hq
  have hlen : 0 < (Nat.toDigits 10 n).length := Nat.length_toDigits_pos
  have ⟨hlow, hhigh⟩ := length_toDigits_bounds hn
  generalize (Nat.toDigits 10 n).length = len at *
  have hpow : (0 : ℚ) < 10 ^ x := by positivity
  constructor
  · have : (10 : ℚ) ^ (-359 : Int) < 10 ^ (len + x) :=
      calc (10 : ℚ) ^ (-359 : Int) ≤ 2 ^ (-1075 : Int) := by
            rw [zpow_neg, zpow_neg]
            exact inv_anti₀ (by positivity) (two_zpow_le_ten_zpow (by decide) (by decide))
        _ ≤ n * 10 ^ x := hleast
        _ < 10 ^ len * 10 ^ x := mul_lt_mul_of_pos_right (by exact_mod_cast hhigh) hpow
        _ = 10 ^ (len + x) := by rw [zpow_add₀ (by norm_num), zpow_natCast]
    have := (zpow_lt_zpow_iff_right₀ (by norm_num)).mp this
    omega
  · have : (10 : ℚ) ^ ((len - 1 : Nat) + x) < 10 ^ (342 : Int) :=
      calc (10 : ℚ) ^ ((len - 1 : Nat) + x) = 10 ^ (len - 1) * 10 ^ x := by rw [zpow_add₀ (by norm_num), zpow_natCast]
        _ ≤ n * 10 ^ x := mul_le_mul_of_nonneg_right (by exact_mod_cast hlow) hpow.le
        _ < 2 ^ (1024 : Int) := hgreatest
        _ ≤ 10 ^ (342 : Int) := two_zpow_le_ten_zpow (by decide) (by decide)
    have := (zpow_lt_zpow_iff_right₀ (by norm_num)).mp this
    omega

/-! ### Reading a number -/

section Scientific

variable {power : Float} {p : Nat} {y : Int} {hp : 0 < p}

theorem mul_two_zpow_neg (n k : Nat) : ((n * 2 ^ k : Nat) : ℚ) * 2 ^ (-k : Int) = n := by
  rw [zpow_neg, zpow_natCast]
  push_cast
  field_simp

theorem product_of_roundsFrom (hm : m.IsNormalized) (hpos : 0 < m.mantissa) (hn : 0 < n) (hlt : n < 2 ^ 53)
    (hu : power.toModel.unpack = .finite .positive p y hp) (hlong : 2 ^ 52 ≤ p) (hq : m.RoundsFrom (n * (p * 2 ^ y))) :
    (n.toUInt64.toFloat * power).toModel = .pack (.finite .positive m.mantissa m.exponent hpos) := by
  obtain ⟨k, hk, _, _, _, hn⟩ := unpack_toFloat hn hlt
  show Float.Model.pack (mul .binary64 n.toUInt64.toFloat.toModel.unpack power.toModel.unpack) = _
  rw [hn, hu, mul_of_roundsFrom hm hpos (by rwa [mul_two_zpow_neg]) (by nlinarith)]
  rfl

theorem quotient_of_roundsFrom (hm : m.IsNormalized) (hpos : 0 < m.mantissa) (hn : 0 < n) (hlt : n < 2 ^ 53)
    (hu : power.toModel.unpack = .finite .positive p y hp) (hq : m.RoundsFrom (n / (p * 2 ^ y))) :
    (n.toUInt64.toFloat / power).toModel = .pack (.finite .positive m.mantissa m.exponent hpos) := by
  obtain ⟨k, hk, _, _, _, hn⟩ := unpack_toFloat hn hlt
  show Float.Model.pack (UnpackedFloat.div .binary64 n.toUInt64.toFloat.toModel.unpack power.toModel.unpack) = _
  rw [hn, hu, div_of_roundsFrom hm hpos (by rwa [mul_two_zpow_neg])]
  rfl

-- The calculation in integers.
theorem ofScientific_of_roundsFrom (hm : m.IsCanonical) (hpos : 0 < m.mantissa) (hn : 0 < n)
    (hq : m.RoundsFrom (n * 10 ^ x)) :
    UnpackedFloat.ofScientific .binary64 n x = .finite .positive m.mantissa m.exponent hpos := by
  have ⟨hleast, hgreatest⟩ := hm.size_of_roundsFrom hpos hn hq
  have hlen : (Nat.toDigits 10 n).length ≤ n.log2 + 1 := by
    have ⟨hlow, _⟩ := length_toDigits_bounds hn
    have := (Nat.le_log2 hn.ne').mpr ((Nat.pow_le_pow_left (by decide : 2 ≤ 10) _).trans hlow)
    omega
  have hcapacity : (2 : Int) ^ Format.binary64.exponentBits = 2048 := rfl
  rw [UnpackedFloat.ofScientific, dif_neg hn.ne', if_neg (by omega), if_neg (by omega)]
  split
  case isTrue hx =>
    obtain ⟨e, rfl⟩ := Int.eq_ofNat_of_zero_le hx
    have hlong : 2 ^ 52 ≤ n <<< 53 * 10 ^ e := by
      have : 0 < 10 ^ e := by positivity
      rw [Nat.shiftLeft_eq]
      nlinarith
    have hsame : ((n <<< 53 : Nat) : ℚ) * 2 ^ (-53 : Int) * ((10 ^ e : Nat) * 2 ^ (0 : Int)) = n * 10 ^ (e : Int) := by
      have hn : ((n * 2 ^ 53 : Nat) : ℚ) * 2 ^ (-53 : Int) = n := mul_two_zpow_neg n 53
      rw [Nat.shiftLeft_eq, hn, zpow_natCast, zpow_zero, mul_one, Nat.cast_pow, Nat.cast_ofNat]
    rw [← hsame] at hq
    have hmul : mul .binary64 (.finite .positive (n <<< 53) (-53) (Nat.shiftLeft_pos_iff.mpr hn))
        (.finite .positive (10 ^ e) 0 (by positivity)) = .finite (.positive * .positive) m.mantissa m.exponent hpos :=
      mul_of_roundsFrom hm.isNormalized hpos hq hlong
    exact hmul
  case isFalse hx =>
    obtain ⟨e, rfl⟩ : ∃ e : Nat, x = -e := ⟨(-x).toNat, by omega⟩
    refine div_of_roundsFrom hm.isNormalized hpos ?_
    have hsame : (n : ℚ) * 2 ^ (0 : Int) / ((10 ^ e : Nat) * 2 ^ (0 : Int)) = n * 10 ^ (-e : Int) := by
      rw [zpow_neg, zpow_natCast, zpow_zero, mul_one, mul_one, div_eq_mul_inv]
      push_cast
      rfl
    rw [← hsame] at hq
    rwa [neg_neg, Int.toNat_natCast]

theorem toModel_ofScientific (hm : m.IsCanonical) (hpos : 0 < m.mantissa) (hn : 0 < n)
    (hq : m.RoundsFrom (n * 10 ^ (if negative then -e else e : Int))) :
    (Float.ofScientific n negative e).toModel = .pack (.finite .positive m.mantissa m.exponent hpos) := by
  unfold Float.ofScientific
  split
  case isTrue h =>
    have ⟨p, y, hp, hu, hlong, hten⟩ := exists_unpack_powerOfTen (e := e) (by omega)
    dsimp only
    split
    case isTrue hs =>
      rw [if_pos hs, zpow_neg, zpow_natCast, ← hten, ← div_eq_mul_inv] at hq
      exact quotient_of_roundsFrom hm.isNormalized hpos hn h.1 hu hq
    case isFalse hs =>
      rw [if_neg hs, zpow_natCast, ← hten] at hq
      exact product_of_roundsFrom hm.isNormalized hpos hn h.1 hu hlong hq
  case isFalse =>
    refine congrArg Float.Model.pack (ofScientific_of_roundsFrom hm hpos hn ?_)
    cases negative
    case false => exact hq
    case true => simpa [Int.negOfNat_eq] using hq

end Scientific
end Magnitude

open Decimal (nearestFloat)

variable {f : Float} {n : Nat} {x : Int}

theorem toModel_nearestFloat {m : Magnitude} (hm : m.IsCanonical) (hpos : 0 < m.mantissa) (hn : 0 < n)
    (hq : m.RoundsFrom (n * 10 ^ x)) :
    (nearestFloat n x).toModel = .pack (.finite .positive m.mantissa m.exponent hpos) := by
  have ⟨hleast, hgreatest⟩ := hm.size_of_roundsFrom hpos hn hq
  unfold nearestFloat
  dsimp only
  rw [if_neg (by omega), if_neg (by omega)]
  split
  case isTrue hx =>
    refine Magnitude.toModel_ofScientific hm hpos hn ?_
    obtain ⟨e, rfl⟩ := Int.eq_ofNat_of_zero_le hx
    exact hq
  case isFalse hx =>
    refine Magnitude.toModel_ofScientific hm hpos hn ?_
    obtain ⟨e, rfl⟩ : ∃ e : Nat, x = -e := ⟨(-x).toNat, by omega⟩
    simpa using hq

-- A finite float is the nearest one to each number that rounds to it.
theorem nearestFloat_of_roundsFrom (hf : f.isFinite = true) (hm : (Magnitude.ofFloat f).mantissa ≠ 0) (hn : 0 < n)
    (hq : (Magnitude.ofFloat f).RoundsFrom (n * 10 ^ x)) :
    (if isSigned f then -nearestFloat n x else nearestFloat n x) = f := by
  have hpos := Nat.pos_of_ne_zero hm
  have hmodel := toModel_nearestFloat (canonical_ofFloat hf) hpos hn hq
  rcases unpack_of_isFinite hf with ⟨_, hz⟩ | ⟨_, hu⟩
  case inl => contradiction
  case inr =>
    refine eq_of_toModel_eq_pack ?_
    rw [hu]
    cases hs : isSigned f
    case false =>
      rw [signOf, hs]
      exact hmodel
    case true =>
      rw [signOf, hs, if_pos rfl]
      show Float.Model.pack (neg (nearestFloat n x).toModel.unpack) = _
      rw [hmodel, (canonical_ofFloat hf).unpack_pack]
      rfl

-- A zero is its sign.
theorem signed_zero_eq (hf : f.isFinite = true) (hm : (Magnitude.ofFloat f).mantissa = 0) :
    (if isSigned f then -(0 : Float) else 0) = f := by
  rcases unpack_of_isFinite hf with ⟨hu, _⟩ | ⟨hpos, _⟩
  case inr => omega
  case inl =>
    refine eq_of_toModel_eq_pack ?_
    rw [hu]
    cases hs : isSigned f
    case false =>
      rw [signOf, hs, if_neg (by decide), toModel_eq_pack, unpack_zero]
      rfl
    case true =>
      rw [signOf, hs, if_pos rfl]
      show Float.Model.pack (neg (0 : Float).toModel.unpack) = _
      rw [unpack_zero]
      rfl

end FormModel
