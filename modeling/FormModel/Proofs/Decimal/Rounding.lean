import FormModel.Proofs.Decimal.Shortest

/-!
Rounding to the nearest float.  A mantissa with the two bits behind it stands for a real number, and it stands for half
of it when it is shifted right by one.  So what is calculated exactly and then cut to 53 bits is the size that the exact
result rounds to; products and quotients of floats are of this kind.
-/

namespace FormModel

open Float.Model (UnpackedFloat Format totalExponent)
open Float.Model.UnpackedFloat

namespace Magnitude

open RoundingInterval (ofMagnitude)

variable {m m' : Magnitude} {q : ℚ} {em : ExtendedMantissa} {t : ℚ} {n d k : Nat} {e : Int} {acc : Accuracy} {s : Sign}

/-! ### Numbers behind a mantissa -/

-- The numbers that a mantissa with its round bit and its sticky bit stands for.
def Represents (em : ExtendedMantissa) (t : ℚ) : Prop :=
  match em.accuracy with
  | .exact => t = em.mantissa
  | .inexact .lt => em.mantissa < t ∧ t < em.mantissa + 1 / 2
  | .inexact .eq => t = em.mantissa + 1 / 2
  | .inexact .gt => em.mantissa + 1 / 2 < t ∧ t < em.mantissa + 1

theorem represents_exact : Represents (.ofMantissaAndAccuracy n .exact) n := rfl

theorem Represents.bounds (h : Represents em t) : em.mantissa ≤ t ∧ t < em.mantissa + 1 := by
  obtain ⟨m, round, sticky⟩ := em
  cases round <;> cases sticky <;> simp only [Represents, ExtendedMantissa.accuracy] at h <;> constructor <;> linarith

theorem Represents.shiftRightOne (h : Represents em t) : Represents em.shiftRightOne (t / 2) := by
  obtain ⟨m, round, sticky⟩ := em
  -- The bit that is shifted out becomes the round bit, and whatever was behind it is left to the sticky bit.
  obtain ⟨half, rfl | rfl⟩ : ∃ half, m = 2 * half ∨ m = 2 * half + 1 := ⟨m / 2, by omega⟩
  case inl =>
    rw [show (⟨2 * half, round, sticky⟩ : ExtendedMantissa).shiftRightOne = ⟨half, false, round || sticky⟩ by
      simp [ExtendedMantissa.shiftRightOne]]
    cases round <;> cases sticky <;>
      simp only [Represents, ExtendedMantissa.accuracy, Bool.or_true, Bool.or_false, Nat.cast_mul, Nat.cast_ofNat] at h ⊢ <;>
      first | linarith | (constructor <;> linarith)
  case inr =>
    rw [show (⟨2 * half + 1, round, sticky⟩ : ExtendedMantissa).shiftRightOne = ⟨half, true, round || sticky⟩ by
      simp [ExtendedMantissa.shiftRightOne, Nat.add_mod]; omega]
    cases round <;> cases sticky <;>
      simp only [Represents, ExtendedMantissa.accuracy, Bool.or_true, Bool.or_false, Nat.cast_add, Nat.cast_mul, Nat.cast_ofNat,
        Nat.cast_one] at h ⊢ <;>
      first | linarith | (constructor <;> linarith)

theorem Represents.shiftRight (h : Represents em t) : Represents (em >>> k) (t / 2 ^ k) := by
  induction k
  case zero => simpa [HShiftRight.hShiftRight, Nat.repeat] using h
  case succ k hi =>
    rw [pow_succ, ← div_div]
    exact hi.shiftRightOne

-- The quotient of a division, with what the remainder says about the places behind it.
theorem represents_div (hd : 0 < d) :
    Represents (.ofMantissaAndAccuracy (n / d) (accuracyOfFraction (n % d) d)) ((n : ℚ) / d) := by
  have hd' : (0 : ℚ) < d := by exact_mod_cast hd
  have hsplit : (n : ℚ) / d = (n / d : Nat) + ((n % d : Nat) : ℚ) / d := by
    rw [eq_comm, ← eq_sub_iff_add_eq', div_eq_iff hd'.ne', sub_mul, div_mul_cancel₀ _ hd'.ne', eq_sub_iff_add_eq']
    exact_mod_cast Nat.div_add_mod' n d
  have hlt : ((n % d : Nat) : ℚ) / d < 1 := by
    rw [div_lt_one hd']
    exact_mod_cast Nat.mod_lt n hd
  rw [hsplit]
  unfold accuracyOfFraction
  split
  case isTrue hz =>
    show _ = ((n / d : Nat) : ℚ)
    simp [hz]
  case isFalse hz =>
    have hpos : (0 : ℚ) < ((n % d : Nat) : ℚ) / d := div_pos (by exact_mod_cast Nat.pos_of_ne_zero hz) hd'
    cases hc : compare (2 * (n % d)) d
    case lt =>
      have hhalf : ((n % d : Nat) : ℚ) / d < 1 / 2 := by
        rw [div_lt_div_iff₀ hd' two_pos]
        exact_mod_cast (by have := Nat.compare_eq_lt.mp hc; omega : n % d * 2 < 1 * d)
      show ((n / d : Nat) : ℚ) < _ ∧ _ < ((n / d : Nat) : ℚ) + 1 / 2
      constructor <;> linarith
    case eq =>
      have hhalf : ((n % d : Nat) : ℚ) / d = 1 / 2 := by
        rw [div_eq_div_iff hd'.ne' two_ne_zero]
        exact_mod_cast (by have := Nat.compare_eq_eq.mp hc; omega : n % d * 2 = 1 * d)
      show _ = ((n / d : Nat) : ℚ) + 1 / 2
      rw [hhalf]
    case gt =>
      have hhalf : 1 / 2 < ((n % d : Nat) : ℚ) / d := by
        rw [div_lt_div_iff₀ two_pos hd']
        exact_mod_cast (by have := Nat.compare_eq_gt.mp hc; omega : 1 * d < n % d * 2)
      show ((n / d : Nat) : ℚ) + 1 / 2 < _ ∧ _ < ((n / d : Nat) : ℚ) + 1
      constructor <;> linarith

/-! ### Cutting to 53 bits -/

-- The first cut leaves at most 53 bits, and not less unless the places are the smallest ones.
theorem exists_shiftToTargetExponent (acc : Accuracy) (he : e ≤ Format.binary64.targetExponent (totalExponent n e)) :
    ∃ k : Nat, shiftToTargetExponent .binary64 n e acc = (ExtendedMantissa.ofMantissaAndAccuracy n acc >>> k, e + k) ∧
      -1074 ≤ e + k ∧ n / 2 ^ k < 2 ^ 53 ∧ (2 ^ 52 ≤ n / 2 ^ k ∨ e + k = -1074) := by
  have ht : Format.binary64.targetExponent (totalExponent n e) = max (n.log2 + 1 + e - 53) (-1074) := rfl
  obtain ⟨k, hk⟩ := Int.le.dest he
  refine ⟨k, ?_, by omega, ?_, ?_⟩
  case refine_1 =>
    unfold shiftToTargetExponent shiftToExponent
    simp only [← hk, add_sub_cancel_left, Int.toNat_natCast]
  case refine_2 =>
    refine Nat.div_lt_of_lt_mul ?_
    rw [← Nat.pow_add]
    exact Nat.lt_log2_self.trans_le (Nat.pow_le_pow_right (by decide) (by omega))
  case refine_3 =>
    rcases eq_or_ne (e + k) (-1074) with hleast | hne
    case inl => exact .inr hleast
    case inr =>
      have hlog : n.log2 = 52 + k := by omega
      have hn : n ≠ 0 := by
        rintro rfl
        simp at hlog
        omega
      left
      rw [Nat.le_div_iff_mul_le (by positivity), ← Nat.pow_add, ← hlog]
      exact Nat.log2_self_le hn

-- What fits into 53 bits is not cut.
theorem shiftToTargetExponent_of_lt (hn : n < 2 ^ 53) (he : -1074 ≤ e) :
    shiftToTargetExponent .binary64 n e .exact = (⟨n, false, false⟩, e) := by
  have hlog : n.log2 ≤ 52 := by
    rcases Nat.eq_zero_or_pos n with rfl | hpos
    case inl => simp
    case inr =>
      have := (Nat.log2_lt hpos.ne').mpr hn
      omega
  have ht : Format.binary64.targetExponent (totalExponent n e) = max (n.log2 + 1 + e - 53) (-1074) := rfl
  have hk : (Format.binary64.targetExponent (totalExponent n e) - e).toNat = 0 := by omega
  unfold shiftToTargetExponent shiftToExponent
  simp only [hk]
  simp [HShiftRight.hShiftRight, Nat.repeat, ExtendedMantissa.ofMantissaAndAccuracy]

/-! ### The nearest size -/

theorem Represents.nearest (h : Represents em t) :
    (t - 1 / 2 ≤ em.roundedMantissa ∧ em.roundedMantissa ≤ t + 1 / 2) ∧
      (em.roundedMantissa % 2 = 1 → t - 1 / 2 < em.roundedMantissa ∧ em.roundedMantissa < t + 1 / 2) := by
  obtain ⟨m, round, sticky⟩ := em
  cases round <;> cases sticky <;> simp only [Represents, ExtendedMantissa.accuracy, ExtendedMantissa.roundedMantissa,
    Accuracy.roundToNearestEven] at h ⊢
  case true.false =>
    -- Halfway between two numbers it is the even one.
    obtain ⟨half, rfl | rfl⟩ : ∃ half, m = 2 * half ∨ m = 2 * half + 1 := ⟨m / 2, by omega⟩
    case inl =>
      rw [show 2 * half + 2 * half % 2 = 2 * half by omega]
      exact ⟨⟨by linarith, by linarith⟩, by omega⟩
    case inr =>
      rw [show 2 * half + 1 + (2 * half + 1) % 2 = 2 * half + 2 by omega]
      push_cast at h ⊢
      exact ⟨⟨by linarith, by linarith⟩, by omega⟩
  all_goals
    push_cast
    exact ⟨⟨by linarith, by linarith⟩, fun _ => ⟨by linarith, by linarith⟩⟩

-- A size is rounded to from half a place on either side, and from a quarter below a power of two.
theorem roundsFrom_of_near (ht : q / 2 ^ m.exponent = t) (hpos : 0 ≤ t) (hnear : t - 1 / 2 ≤ m.mantissa)
    (hnear' : m.mantissa ≤ t + 1 / 2)
    (hodd : m.mantissa % 2 = 1 → t - 1 / 2 < m.mantissa ∧ m.mantissa < t + 1 / 2)
    (hlead : m.mantissa = 2 ^ 52 → -1074 < m.exponent → m.mantissa ≤ t + 1 / 4) : m.RoundsFrom q := by
  have hx : q / 2 ^ (m.exponent - 2) = 4 * t := by
    rw [← ht, zpow_sub₀ two_ne_zero]
    field_simp
    norm_num
  have hhigh : ((ofMagnitude m).high : ℚ) = 4 * m.mantissa + 2 := by simp [ofMagnitude]
  have hlow : ((ofMagnitude m).low : ℚ) ≤ 4 * t := by
    by_cases hl : m.mantissa = 2 ^ 52 ∧ -1074 < m.exponent
    case pos =>
      have hlow : (ofMagnitude m).low + 1 = 4 * m.mantissa := by simp only [ofMagnitude]; split <;> omega
      have hlow : ((ofMagnitude m).low : ℚ) + 1 = 4 * m.mantissa := by exact_mod_cast hlow
      linarith [hlead hl.1 hl.2]
    case neg =>
      have hlow : (ofMagnitude m).low = 0 ∨ (ofMagnitude m).low + 2 = 4 * m.mantissa := by
        simp only [ofMagnitude]
        split <;> omega
      rcases hlow with hz | hlow
      case inl =>
        rw [hz, Nat.cast_zero]
        linarith
      case inr =>
        have hlow : ((ofMagnitude m).low : ℚ) + 2 = 4 * m.mantissa := by exact_mod_cast hlow
        linarith
  rw [RoundsFrom, hx, RoundingInterval.Holds]
  split
  case isTrue => exact ⟨hlow, by linarith⟩
  case isFalse hc =>
    have hone : m.mantissa % 2 = 1 := by
      simp only [ofMagnitude, beq_iff_eq] at hc
      omega
    obtain ⟨ho, ho'⟩ := hodd hone
    have hlow : (ofMagnitude m).low + 2 = 4 * m.mantissa := by simp only [ofMagnitude]; split <;> omega
    have hlow : ((ofMagnitude m).low : ℚ) + 2 = 4 * m.mantissa := by exact_mod_cast hlow
    constructor <;> linarith

-- What is cut off is less than a half, or a half where the mantissa is even then; so the number rounds to what is left.
-- Where rounding up carries into one more bit, the last place moves up.
theorem Represents.exists_roundsFrom (h : Represents em (q / 2 ^ e)) (hleast : -1074 ≤ e) (hshort : em.mantissa < 2 ^ 53)
    (hlead : 2 ^ 52 ≤ em.mantissa ∨ e = -1074) :
    ∃ m : Magnitude, m.IsNormalized ∧ m.RoundsFrom q ∧
      (em.roundedMantissa = m.mantissa ∧ e = m.exponent ∨
        em.roundedMantissa = 2 ^ 53 ∧ m.mantissa = 2 ^ 52 ∧ m.exponent = e + 1) := by
  obtain ⟨t, ht⟩ : ∃ t, q / 2 ^ e = t := ⟨_, rfl⟩
  rw [ht] at h
  have ⟨hfrom, _⟩ := h.bounds
  have ⟨⟨hnear, hnear'⟩, hodd⟩ := h.nearest
  have ⟨hr, hr'⟩ := @roundedMantissa_bounds em
  have hpos : 0 ≤ t := (Nat.cast_nonneg em.mantissa).trans hfrom
  have hsame : em.roundedMantissa = em.mantissa → (em.roundedMantissa : ℚ) ≤ t := fun hm => hm ▸ hfrom
  generalize em.roundedMantissa = r at *
  rcases Nat.lt_or_ge r (2 ^ 53) with hlt | hge
  case inl =>
    refine ⟨⟨r, e⟩, ⟨hleast, hlt, hlead.imp_left fun hl => by dsimp only; omega⟩, ?_, .inl ⟨rfl, rfl⟩⟩
    refine roundsFrom_of_near ht hpos hnear hnear' hodd fun hm he => ?_
    dsimp only at hm he ⊢
    linarith [hsame (by omega)]
  case inr =>
    have hr : r = 2 * 2 ^ 52 := by omega
    have hcarry : ((2 ^ 52 : Nat) : ℚ) ≤ t / 2 + 1 / 4 ∧ t / 2 ≤ (2 ^ 52 : Nat) + 1 / 4 := by
      rw [hr, Nat.cast_mul, Nat.cast_two] at hnear hnear'
      constructor <;> linarith
    have ht' : q / 2 ^ (e + 1) = t / 2 := by rw [zpow_add_one₀ two_ne_zero, ← div_div, ht]
    refine ⟨⟨2 ^ 52, e + 1⟩, ⟨by dsimp only; omega, by dsimp only; omega, by dsimp only; omega⟩, ?_,
      .inr ⟨by omega, rfl, rfl⟩⟩
    refine roundsFrom_of_near ht' (by linarith) ?_ ?_ ?_ ?_ <;> dsimp only
    · linarith
    · linarith
    · omega
    · exact fun _ _ => hcarry.1

-- The result of a rounding is the size that the exact number rounds to.
theorem roundWithAccuracy_of_roundsFrom (hm : m.IsNormalized) (hpos : 0 < m.mantissa) (hq : m.RoundsFrom q)
    (h : Represents (.ofMantissaAndAccuracy n acc) (q / 2 ^ e))
    (he : e ≤ Format.binary64.targetExponent (totalExponent n e)) :
    roundWithAccuracy .binary64 s n e acc = .finite s m.mantissa m.exponent hpos := by
  obtain ⟨k, hfirst, hleast, hshort, hlead⟩ := exists_shiftToTargetExponent acc he
  have hmantissa : (ExtendedMantissa.ofMantissaAndAccuracy n acc).mantissa = n := by
    unfold ExtendedMantissa.ofMantissaAndAccuracy
    split <;> rfl
  have hshift : (ExtendedMantissa.ofMantissaAndAccuracy n acc >>> k).mantissa = n / 2 ^ k := by
    rw [mantissa_shiftRight, hmantissa]
  rw [← hshift] at hshort hlead
  have h : Represents (ExtendedMantissa.ofMantissaAndAccuracy n acc >>> k) (q / 2 ^ (e + k)) := by
    have := h.shiftRight (k := k)
    rwa [div_div, ← zpow_natCast, ← zpow_add₀ two_ne_zero] at this
  obtain ⟨m', hm', hq', hrounded⟩ := h.exists_roundsFrom hleast hshort hlead
  obtain rfl := hq'.unique hm' hm hq
  unfold roundWithAccuracy
  simp only [hfirst]
  rcases hrounded with ⟨hr, hexp⟩ | ⟨hr, hmant, hexp⟩
  case inl =>
    simp only [hr, hexp, shiftToTargetExponent_of_lt hm.short hm.least]
    rw [dif_neg hpos.ne']
  case inr =>
    -- The mantissa is a power of two with one bit too many.
    have hr : (ExtendedMantissa.ofMantissaAndAccuracy n acc >>> k).roundedMantissa = 2 ^ 52 * 2 ^ 1 := by omega
    have hlog : (2 ^ 52 * 2 ^ 1).log2 = 52 + 1 := by rw [log2_mul_two_pow (by decide), Nat.log2_two_pow]
    have hcut := shiftToTargetExponent_of_log2 (e := e + k) hlog (by omega)
    rw [shiftRight_exact] at hcut
    simp only [hr, hcut, hmant, hexp]
    rw [dif_neg (by decide)]
    rfl

/-! ### Products and quotients -/

section Arithmetic

variable {s₁ s₂ : Sign} {m₁ m₂ : Nat} {e₁ e₂ : Int} {h₁ : 0 < m₁} {h₂ : 0 < m₂}

theorem le_targetExponent_of_le (hn : 2 ^ 52 ≤ n) : e ≤ Format.binary64.targetExponent (totalExponent n e) := by
  have hlog : 52 ≤ n.log2 := (Nat.le_log2 (by omega)).mpr hn
  have ht : Format.binary64.targetExponent (totalExponent n e) = max (n.log2 + 1 + e - 53) (-1074) := rfl
  omega

theorem mul_of_roundsFrom (hm : m.IsNormalized) (hpos : 0 < m.mantissa)
    (hq : m.RoundsFrom (m₁ * 2 ^ e₁ * (m₂ * 2 ^ e₂))) (hlong : 2 ^ 52 ≤ m₁ * m₂) :
    mul .binary64 (.finite s₁ m₁ e₁ h₁) (.finite s₂ m₂ e₂ h₂) = .finite (s₁ * s₂) m.mantissa m.exponent hpos := by
  rw [mul_finite]
  refine roundWithAccuracy_of_roundsFrom hm hpos hq ?_ (le_targetExponent_of_le hlong)
  have hexact : (m₁ * 2 ^ e₁ * (m₂ * 2 ^ e₂) : ℚ) / 2 ^ (e₁ + e₂) = (m₁ * m₂ : Nat) := by
    rw [zpow_add₀ two_ne_zero]
    push_cast
    field_simp
  rw [hexact]
  exact represents_exact

-- The dividend is lengthened until the quotient has 53 bits, or until the places are the smallest ones.
theorem le_targetExponent_div (h₂ : 0 < m₂) {j : Nat} (hj : e₁ - e₂ = e + j)
    (he : e = min (e₁ - e₂) (Format.binary64.targetExponent (totalExponent m₁ e₁ - totalExponent m₂ e₂))) (h₁ : 0 < m₁) :
    e ≤ Format.binary64.targetExponent (totalExponent (m₁ * 2 ^ j / m₂) e) := by
  have ht : Format.binary64.targetExponent (totalExponent m₁ e₁ - totalExponent m₂ e₂) =
      max (m₁.log2 + 1 + e₁ - (m₂.log2 + 1 + e₂) - 53) (-1074) := rfl
  rcases le_or_gt e (-1074) with hleast | hgreater
  case inl => exact hleast.trans (le_max_right ..)
  case inr =>
    refine le_targetExponent_of_le ((Nat.le_div_iff_mul_le h₂).mpr ?_)
    calc 2 ^ 52 * m₂ ≤ 2 ^ 52 * 2 ^ (m₂.log2 + 1) := Nat.mul_le_mul_left _ Nat.lt_log2_self.le
      _ = 2 ^ (52 + (m₂.log2 + 1)) := (Nat.pow_add ..).symm
      _ ≤ 2 ^ (m₁.log2 + j) := Nat.pow_le_pow_right (by decide) (by omega)
      _ = 2 ^ m₁.log2 * 2 ^ j := Nat.pow_add ..
      _ ≤ m₁ * 2 ^ j := Nat.mul_le_mul_right _ (Nat.log2_self_le h₁.ne')

theorem div_of_roundsFrom (hm : m.IsNormalized) (hpos : 0 < m.mantissa)
    (hq : m.RoundsFrom (m₁ * 2 ^ e₁ / (m₂ * 2 ^ e₂))) :
    UnpackedFloat.div .binary64 (.finite s₁ m₁ e₁ h₁) (.finite s₂ m₂ e₂ h₂) =
      .finite (s₁ / s₂) m.mantissa m.exponent hpos := by
  obtain ⟨e, he⟩ : ∃ e, e = min (e₁ - e₂) (Format.binary64.targetExponent (totalExponent m₁ e₁ - totalExponent m₂ e₂)) :=
    ⟨_, rfl⟩
  obtain ⟨j, hj⟩ := Int.le.dest (he ▸ min_le_left .. : e ≤ e₁ - e₂)
  show roundWithAccuracy .binary64 (s₁ / s₂) ((m₁ <<< (e₁ - e₂ - _).toNat) / m₂) _ (accuracyOfFraction _ m₂) = _
  rw [← he, ← hj, add_sub_cancel_left, Int.toNat_natCast, Nat.shiftLeft_eq]
  refine roundWithAccuracy_of_roundsFrom hm hpos hq ?_ (le_targetExponent_div h₂ hj.symm he h₁)
  have hexact : (m₁ * 2 ^ e₁ / (m₂ * 2 ^ e₂) : ℚ) / 2 ^ e = (m₁ * 2 ^ j : Nat) / m₂ := by
    have hpow : (2 : ℚ) ^ e₁ = 2 ^ e₂ * 2 ^ e * 2 ^ j := by
      rw [← zpow_natCast, ← zpow_add₀ two_ne_zero, ← zpow_add₀ two_ne_zero]
      congr 1
      omega
    have hm₂ : (m₂ : ℚ) ≠ 0 := by exact_mod_cast h₂.ne'
    rw [hpow]
    push_cast
    field_simp
  rw [hexact]
  exact represents_div h₂

end Arithmetic

end Magnitude
end FormModel
