import FormModel.Proofs.Decimal.Whole

/-!
The digits of a float lie among the reals that round to it, and the reals that round to two floats have nothing in
common.  So the digits tell any two floats apart.
-/

namespace FormModel

open Float.Model (UnpackedFloat)
open Float.Model.UnpackedFloat (unpack unpackExponent)

section Powers

variable {x : Int} {n a b : Nat}

theorem zpow_eq_div (a : ℚ) (z : Int) : a ^ z = a ^ z.toNat / a ^ (-z).toNat := by
  obtain ⟨n, rfl | rfl⟩ := Int.eq_nat_or_neg z
  case inl => simp
  case inr => simp [zpow_neg]

-- A fraction a little above the logarithm of two takes powers of ten just above those of two.
theorem ten_pow_lt (h : 10 ^ a < 2 ^ (b + 1)) (hn : n < b) : 10 ^ (n * a / b) < 2 ^ (n + 1) := by
  refine lt_of_pow_lt_pow_left₀ b (by positivity) ?_
  calc (10 ^ (n * a / b)) ^ b = 10 ^ (n * a / b * b) := (Nat.pow_mul ..).symm
    _ ≤ 10 ^ (a * n) := Nat.pow_le_pow_right (by decide) (Nat.mul_comm a n ▸ Nat.div_mul_le_self ..)
    _ = (10 ^ a) ^ n := Nat.pow_mul ..
    _ ≤ (2 ^ (b + 1)) ^ n := Nat.pow_le_pow_left h.le n
    _ = 2 ^ ((b + 1) * n) := (Nat.pow_mul ..).symm
    _ < 2 ^ ((n + 1) * b) := Nat.pow_lt_pow_right (by decide) (by rw [Nat.add_mul, Nat.add_mul, Nat.mul_comm b n]; omega)
    _ = (2 ^ (n + 1)) ^ b := Nat.pow_mul ..

theorem two_pow_le (h : 2 ^ b ≤ 10 ^ a) (hb : 0 < b) : 2 ^ n ≤ 10 ^ ((n * a + (b - 1)) / b) := by
  have hceil : n * a ≤ (n * a + (b - 1)) / b * b := by
    have := Nat.lt_div_mul_add hb (a := n * a + (b - 1))
    omega
  refine le_of_pow_le_pow_left₀ hb.ne' (by positivity) ?_
  calc (2 ^ n) ^ b = (2 ^ b) ^ n := by rw [← Nat.pow_mul, ← Nat.pow_mul, Nat.mul_comm]
    _ ≤ (10 ^ a) ^ n := Nat.pow_le_pow_left h n
    _ = 10 ^ (n * a) := by rw [← Nat.pow_mul, Nat.mul_comm]
    _ ≤ 10 ^ ((n * a + (b - 1)) / b * b) := Nat.pow_le_pow_right (by decide) hceil
    _ = (10 ^ ((n * a + (b - 1)) / b)) ^ b := Nat.pow_mul ..

theorem ten_pow_between : 2 ^ 100000 ≤ 10 ^ 30103 ∧ 10 ^ 30103 < 2 ^ (100000 + 1) := by decide +kernel

theorem ten_zpow_lt (hg : x < 100000) : (10 : ℚ) ^ (x * 30103 / 100000) < 2 ^ (x + 1) := by
  obtain ⟨n, rfl | rfl⟩ := Int.eq_nat_or_neg x
  case inl =>
    rw [show (n : Int) * 30103 / 100000 = (n * 30103 / 100000 : Nat) by omega, show (n : Int) + 1 = (n + 1 : Nat) by omega,
      zpow_natCast, zpow_natCast]
    exact_mod_cast ten_pow_lt ten_pow_between.2 (by omega)
  case inr =>
    have h : (2 : ℚ) ^ n ≤ 10 ^ ((n * 30103 + (100000 - 1)) / 100000) := by
      exact_mod_cast two_pow_le ten_pow_between.1 (by decide)
    have hpos : (0 : ℚ) < 10 ^ ((n * 30103 + (100000 - 1)) / 100000) := by positivity
    rw [show -(n : Int) * 30103 / 100000 = -((n * 30103 + (100000 - 1)) / 100000 : Nat) by omega, zpow_neg, zpow_natCast,
      zpow_add₀ two_ne_zero, zpow_neg, zpow_natCast, zpow_one, ← div_eq_inv_mul, inv_eq_one_div,
      div_lt_div_iff₀ hpos (by positivity)]
    linarith

end Powers

namespace Decimal

-- The number itself.
def value (d : Decimal) : ℚ := d.digits * 10 ^ d.exponent

theorem value_trim {d : Decimal} : d.trim.value = d.value := by
  fun_induction trim d
  case case1 d h => simp [value, h]
  case case2 d h ht hi =>
    rw [hi, value, value, zpow_add_one₀ (by norm_num)]
    have : d.digits = d.digits / 10 * 10 := by omega
    conv_rhs => rw [this]
    push_cast
    ring
  case case3 => rfl

end Decimal

namespace RoundingInterval

variable {i j : RoundingInterval} {t s : ℚ} {point step unit n : Nat}

-- A real number in the interval.
def Holds (i : RoundingInterval) (t : ℚ) : Prop :=
  if i.closed then i.low ≤ t ∧ t ≤ i.high else i.low < t ∧ t < i.high

theorem Holds.bounds (h : i.Holds t) : i.low ≤ t ∧ t ≤ i.high := by
  unfold Holds at h
  split at h
  case isTrue => exact h
  case isFalse => exact ⟨h.1.le, h.2.le⟩

theorem Holds.strict (h : i.Holds t) (hc : i.closed = false) : i.low < t ∧ t < i.high := by
  simpa [Holds, hc] using h

theorem covers_iff (hu : 0 < unit) : i.covers point unit = true ↔ i.Holds (point / unit) := by
  have hu : (0 : ℚ) < unit := by exact_mod_cast hu
  unfold covers Holds
  split
  case isTrue =>
    rw [Bool.and_eq_true, decide_eq_true_iff, decide_eq_true_iff, le_div_iff₀ hu, div_le_iff₀ hu]
    norm_cast
  case isFalse =>
    rw [Bool.and_eq_true, decide_eq_true_iff, decide_eq_true_iff, lt_div_iff₀ hu, div_lt_iff₀ hu]
    norm_cast

theorem covers_of_nearestOn (h : i.nearestOn step unit = some n) : i.covers (n * step) unit = true := by
  unfold nearestOn at h
  dsimp only at h
  split at h
  case isTrue hc =>
    rw [Bool.and_eq_true] at hc
    exact Option.some.inj h ▸ hc.1
  case isFalse =>
    split at h
    case isTrue hc => exact Option.some.inj h ▸ hc
    case isFalse => contradiction

-- On a fine grid the point above the value lies below the upper end.
theorem exists_nearestOn (hs : 0 < step) (hf : step < 2 * unit) (hl : i.low < i.value) (hh : i.value + 2 ≤ i.high) :
    ∃ n, i.nearestOn step unit = some n := by
  have hu : 0 < unit := by omega
  have hbelow : i.value * unit / step * step ≤ i.value * unit := Nat.div_mul_le_self ..
  have habove : i.value * unit < (i.value * unit / step + 1) * step := by
    rw [Nat.add_mul, Nat.one_mul]
    exact Nat.lt_div_mul_add hs
  have hlow : i.low * unit < i.value * unit := Nat.mul_lt_mul_of_pos_right hl hu
  have hhigh : (i.value + 2) * unit ≤ i.high * unit := Nat.mul_le_mul_right _ hh
  have hcovers : i.covers ((i.value * unit / step + 1) * step) unit = true := by
    rw [Nat.add_mul] at habove hhigh ⊢
    unfold covers
    split <;> simp only [Bool.and_eq_true, decide_eq_true_iff] <;> omega
  unfold nearestOn
  dsimp only
  rw [hcovers]
  split
  case isTrue => exact ⟨_, rfl⟩
  case isFalse => exact ⟨_, rfl⟩

end RoundingInterval

namespace Magnitude

variable {m m' : Magnitude} {q : ℚ} {d : Decimal} {count k : Nat}

-- The sizes of finite floats: the first bit of the mantissa is set, except where the places are the smallest ones.
structure IsCanonical (m : Magnitude) : Prop where
  least : -1074 ≤ m.exponent
  greatest : m.exponent ≤ 971
  short : m.mantissa < 2 ^ 53
  leading : 2 ^ 52 ≤ m.mantissa ∨ m.exponent = -1074

-- Sizes written in the same way, whether or not they are too great for a float.
structure IsNormalized (m : Magnitude) : Prop where
  least : -1074 ≤ m.exponent
  short : m.mantissa < 2 ^ 53
  leading : 2 ^ 52 ≤ m.mantissa ∨ m.exponent = -1074

theorem IsCanonical.isNormalized (hm : m.IsCanonical) : m.IsNormalized := ⟨hm.least, hm.short, hm.leading⟩

-- The reals that round to a size.
def RoundsFrom (m : Magnitude) (q : ℚ) : Prop := (RoundingInterval.ofMagnitude m).Holds (q / 2 ^ (m.exponent - 2))

open RoundingInterval (ofMagnitude)

-- What rounds to two sizes lies below the upper end of the one and above the lower end of the other.
theorem RoundsFrom.low_le_high (h : m.RoundsFrom q) (h' : m'.RoundsFrom q) (he : m'.exponent = m.exponent + k) :
    (ofMagnitude m').low * 2 ^ k ≤ (ofMagnitude m).high ∧
      ((ofMagnitude m).closed = false → (ofMagnitude m').low * 2 ^ k < (ofMagnitude m).high) ∧
      ((ofMagnitude m').closed = false → (ofMagnitude m').low * 2 ^ k < (ofMagnitude m).high) := by
  have hk : (0 : ℚ) < 2 ^ k := by positivity
  obtain ⟨t, ht⟩ : ∃ t, q / 2 ^ (m.exponent - 2) = t := ⟨_, rfl⟩
  have ht' : q / 2 ^ (m'.exponent - 2) = t / 2 ^ k := by
    rw [← ht, he, show m.exponent + k - 2 = m.exponent - 2 + k by omega, zpow_add₀ two_ne_zero, zpow_natCast, div_div]
  unfold RoundsFrom at h h'
  rw [ht] at h
  rw [ht'] at h'
  have hlow : (ofMagnitude m').low * 2 ^ k ≤ t := (le_div_iff₀ hk).mp h'.bounds.1
  refine ⟨?_, fun hc => ?_, fun hc => ?_⟩
  · exact_mod_cast hlow.trans h.bounds.2
  · exact_mod_cast hlow.trans_lt (h.strict hc).2
  · exact_mod_cast ((lt_div_iff₀ hk).mp (h'.strict hc).1).trans_le h.bounds.2

theorem le_low : 4 * m.mantissa ≤ (ofMagnitude m).low + 2 := by
  simp only [ofMagnitude]
  split <;> omega

theorem IsNormalized.le_low (hm : m.IsNormalized) (he : -1074 < m.exponent) : 2 ^ 54 - 1 ≤ (ofMagnitude m).low := by
  have hleading := hm.leading
  simp only [ofMagnitude]
  split <;> omega

-- Between neighbours only the number halfway is left, and one of the two has an odd mantissa and does not take it.
theorem RoundsFrom.not_lt (hm : m.IsNormalized) (hm' : m'.IsNormalized) (h : m.RoundsFrom q) (h' : m'.RoundsFrom q)
    (he : m'.exponent = m.exponent + k) (hlt : 0 < k ∨ m.mantissa < m'.mantissa) : False := by
  have ⟨hle, hopen, hopen'⟩ := h.low_le_high h' he
  have hclosed (m : Magnitude) : (ofMagnitude m).closed = false ↔ ¬m.mantissa % 2 = 0 := by simp [ofMagnitude]
  have hhigh : (ofMagnitude m).high = 4 * m.mantissa + 2 := rfl
  rw [hclosed] at hopen hopen'
  rcases Nat.eq_zero_or_pos k with rfl | hk
  case inl =>
    have := m'.le_low
    omega
  case inr =>
    have hleast := hm.least
    have hshort := hm.short
    have := Nat.mul_le_mul (hm'.le_low (by omega)) (Nat.pow_le_pow_right (by decide : 0 < 2) hk)
    omega

theorem RoundsFrom.unique (hm : m.IsNormalized) (hm' : m'.IsNormalized) (h : m.RoundsFrom q)
    (h' : m'.RoundsFrom q) : m = m' := by
  wlog hle : m.exponent ≤ m'.exponent generalizing m m'
  case inr => exact (this hm' hm h' h (by omega)).symm
  obtain ⟨k, he⟩ := Int.le.dest hle
  have hk : k = 0 := Nat.eq_zero_of_not_pos fun hk => h.not_lt hm hm' h' he.symm (.inl hk)
  have hexponent : m.exponent = m'.exponent := by omega
  rcases Nat.lt_trichotomy m.mantissa m'.mantissa with hlt | hmantissa | hlt
  case inl => exact (h.not_lt hm hm' h' he.symm (.inr hlt)).elim
  case inr.inl =>
    cases m
    cases m'
    simp_all
  case inr.inr => exact (h'.not_lt (k := 0) hm' hm h (by omega) (.inr hlt)).elim

-- The grid with a number of digits: the place of its last digit, and its step as a fraction of the quarters of the last
-- binary place.
def place (m : Magnitude) (count : Nat) : Int := ((Nat.log2 m.mantissa : Int) + m.exponent) * 30103 / 100000 + 1 - count

def step (m : Magnitude) (count : Nat) : Nat := Nat.pow 10 (m.place count).toNat <<< (-(m.exponent - 2)).toNat

def unit (m : Magnitude) (count : Nat) : Nat := Nat.pow 10 (-m.place count).toNat <<< (m.exponent - 2).toNat

def onGrid (m : Magnitude) (count : Nat) : Option Decimal :=
  ((ofMagnitude m).nearestOn (m.step count) (m.unit count)).map fun n => Decimal.trim ⟨n, m.place count⟩

theorem shortest_eq : m.shortest = ((List.range 19).findSome? m.onGrid).getD ⟨0, 0⟩ := rfl

theorem unit_pos : 0 < m.unit count := by
  rw [unit, Nat.shiftLeft_eq]
  exact Nat.mul_pos (Nat.pow_pos (by decide)) (Nat.pow_pos (by decide))

theorem step_pos : 0 < m.step count := by
  rw [step, Nat.shiftLeft_eq]
  exact Nat.mul_pos (Nat.pow_pos (by decide)) (Nat.pow_pos (by decide))

theorem step_div_unit : (m.step count : ℚ) / m.unit count = 10 ^ m.place count / 2 ^ (m.exponent - 2) := by
  rw [zpow_eq_div 10 (m.place count), zpow_eq_div 2 (m.exponent - 2), step, unit, Nat.shiftLeft_eq, Nat.shiftLeft_eq,
    Nat.pow_eq, Nat.pow_eq, div_div_div_eq]
  push_cast
  rfl

-- Digits on a grid round to the float they were found for.
theorem roundsFrom_of_onGrid (h : m.onGrid count = some d) : m.RoundsFrom d.value := by
  obtain ⟨n, hn, rfl⟩ := Option.map_eq_some_iff.mp h
  have hc := (RoundingInterval.covers_iff unit_pos).mp (RoundingInterval.covers_of_nearestOn hn)
  rw [RoundsFrom, Decimal.value_trim, Decimal.value, mul_div_assoc, ← step_div_unit, ← mul_div_assoc]
  exact_mod_cast hc

theorem IsCanonical.step_lt (hm : m.IsCanonical) (hpos : 0 < m.mantissa) : m.step 18 < 2 * m.unit 18 := by
  have hgreatest := hm.greatest
  have hlog : m.mantissa.log2 < 53 := (Nat.log2_lt hpos.ne').mpr hm.short
  obtain ⟨x, hx⟩ : ∃ x : Int, (m.mantissa.log2 : Int) + m.exponent = x := ⟨_, rfl⟩
  have hplace : (10 : ℚ) ^ m.place 18 < 2 * 2 ^ (m.exponent - 2) :=
    calc (10 : ℚ) ^ m.place 18 = 10 ^ (x * 30103 / 100000) / 10 ^ 17 := by
          rw [place, hx, ← zpow_natCast (10 : ℚ) 17, ← zpow_sub₀ (by norm_num)]
          congr 1
          omega
      _ < 2 ^ (x + 1) / 10 ^ 17 := div_lt_div_of_pos_right (ten_zpow_lt (by omega)) (by norm_num)
      _ ≤ 2 ^ (x + 1) / 2 ^ 54 := div_le_div_of_nonneg_left (by positivity) (by positivity) (by norm_num)
      _ = 2 ^ (x - 53) := by
          rw [← zpow_natCast (2 : ℚ) 54, ← zpow_sub₀ two_ne_zero]
          congr 1
          omega
      _ ≤ 2 ^ (m.exponent - 1) := zpow_le_zpow_right₀ (by norm_num) (by omega)
      _ = 2 * 2 ^ (m.exponent - 2) := by
          rw [← zpow_one_add₀ two_ne_zero]
          congr 1
          omega
  have hunit : (0 : ℚ) < m.unit 18 := by exact_mod_cast unit_pos
  have hratio : (m.step 18 : ℚ) / m.unit 18 < 2 := by
    rw [step_div_unit, div_lt_iff₀ (by positivity)]
    exact hplace
  exact_mod_cast (div_lt_iff₀ hunit).mp hratio

-- Digits are found, so they round to the float.
theorem IsCanonical.roundsFrom_shortest (hm : m.IsCanonical) (hpos : 0 < m.mantissa) : m.RoundsFrom m.shortest.value := by
  have hlow : (ofMagnitude m).low < (ofMagnitude m).value := by
    simp only [ofMagnitude]
    split <;> omega
  have ⟨n, hn⟩ := RoundingInterval.exists_nearestOn step_pos (hm.step_lt hpos) hlow (Nat.le_refl _)
  have hsome : ((List.range 19).findSome? m.onGrid).isSome := by
    rw [List.findSome?_isSome_iff]
    exact ⟨18, by decide, by rw [onGrid, hn]; rfl⟩
  obtain ⟨d, hd⟩ := Option.isSome_iff_exists.mp hsome
  have ⟨_, count, _, _, hcount, _⟩ := List.findSome?_eq_some_iff.mp hd
  rw [shortest_eq, hd]
  exact roundsFrom_of_onGrid hcount

theorem IsCanonical.value_shortest_pos (hm : m.IsCanonical) (hpos : 0 < m.mantissa) : 0 < m.shortest.value := by
  have h := (hm.roundsFrom_shortest hpos).bounds.1
  have hlow : 0 < (ofMagnitude m).low := by
    have := m.le_low
    omega
  have hq : (0 : ℚ) < m.shortest.value / 2 ^ (m.exponent - 2) := lt_of_lt_of_le (by exact_mod_cast hlow) h
  exact (div_pos_iff_of_pos_right (by positivity)).mp hq

-- The digits tell sizes apart.
theorem eq_of_value_shortest (hm : m.IsCanonical) (hm' : m'.IsCanonical) (hp : 0 < m.mantissa) (hp' : 0 < m'.mantissa)
    (h : m.shortest.value = m'.shortest.value) : m = m' :=
  (hm.roundsFrom_shortest hp).unique hm.isNormalized hm'.isNormalized (h ▸ hm'.roundsFrom_shortest hp')

end Magnitude

section Bits

variable {f g : Float}

-- The greatest exponent that can be written belongs to the infinities and to what is not a number.
theorem exponent_ne_of_isFinite (hf : f.isFinite = true) : f.toBits.toNat / 2 ^ 52 % 2 ^ 11 ≠ 2047 := by
  intro hb
  have he := toNat_unpackExponent (b := f.toBits.toBitVec)
  change _ = f.toBits.toNat / 2 ^ 52 % 2 ^ 11 at he
  change UnpackedFloat.isFinite (unpack .binary64 f.toBits.toBitVec) = true at hf
  have hw : @unpackExponent .binary64 f.toBits.toBitVec = -1#_ := BitVec.eq_of_toNat_eq (he.trans hb)
  unfold unpack at hf
  simp only [if_pos hw] at hf
  split at hf <;> contradiction

theorem canonical_ofFloat (hf : f.isFinite = true) : (Magnitude.ofFloat f).IsCanonical := by
  have hb := exponent_ne_of_isFinite hf
  unfold Magnitude.ofFloat
  dsimp only
  split <;> constructor <;> dsimp only <;> omega

-- What a float is packed from is found in it again.
theorem Magnitude.IsCanonical.unpack_pack {m : Magnitude} {s : UnpackedFloat.Sign} (hm : m.IsCanonical) {hp : 0 < m.mantissa} :
    (Float.Model.pack (.finite s m.mantissa m.exponent hp)).unpack = .finite s m.mantissa m.exponent hp := by
  rcases Nat.lt_or_ge m.mantissa (2 ^ 52) with hlt | hge
  case inl =>
    have he : m.exponent = -1074 := hm.leading.resolve_left (Nat.not_le.mpr hlt)
    simp only [he]
    exact unpack_pack_least hlt
  case inr => exact FormModel.unpack_pack hge hm.short hm.least hm.greatest

-- A float is its sign and its size.
theorem eq_of_ofFloat (hs : isSigned f = isSigned g) (hm : Magnitude.ofFloat f = Magnitude.ofFloat g) : f = g := by
  have hlt := f.toBits.toNat_lt
  have hlt' := g.toBits.toNat_lt
  unfold isSigned at hs
  rw [Bool.eq_iff_iff, beq_iff_eq, beq_iff_eq] at hs
  unfold Magnitude.ofFloat at hm
  dsimp only at hm
  refine Float.toBits_inj.mp (UInt64.toNat_inj.mp ?_)
  split at hm <;> split at hm <;> injection hm <;> omega

end Bits

end FormModel
