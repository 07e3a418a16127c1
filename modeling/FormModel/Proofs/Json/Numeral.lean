import FormModel.Json.Reader
import FormModel.Proofs.Decimal.Shortest
import FormModel.Proofs.Pointer.Path

/-!
The text of a number.  Whichever way its digits are set out, they are read one by one, and the number that they write
is the one whose text it is.
-/

namespace FormModel

namespace Json

open Reader

-- What follows a value in the text of an array or an object, or the end of the text.
def Closing (cs : List Char) : Prop := ∀ c ∈ cs.head?, c = ',' ∨ c = ']' ∨ c = '\x7d'

variable {cs : List Char} {ds ds' : List Nat} {n d : Nat}

theorem closing_cons {c : Char} (hc : c = ',' ∨ c = ']' ∨ c = '\x7d') : Closing (c :: cs) := by
  rintro _ ⟨⟩
  exact hc

theorem Closing.cases_head {motive : List Char → Prop} (h : Closing cs) (nil : motive [])
    (comma : ∀ rest, motive (',' :: rest)) (bracket : ∀ rest, motive (']' :: rest))
    (brace : ∀ rest, motive ('\x7d' :: rest)) : motive cs := by
  cases cs
  case nil => exact nil
  case cons c rest =>
    obtain rfl | rfl | rfl := h c rfl
    · exact comma rest
    · exact bracket rest
    · exact brace rest

theorem Closing.digits (h : Closing cs) : digits cs = ([], cs) :=
  h.cases_head (motive := fun cs => Reader.digits cs = ([], cs)) rfl (fun _ => rfl) (fun _ => rfl) (fun _ => rfl)

section Digits

-- The digits of a number, the first of which is not zero.
def digitsOf (n : Nat) : List Nat := (Nat.toDigits 10 n).map fun c => c.toNat - '0'.toNat

theorem exists_digitChar {c : Char} (h : c.isDigit = true) : ∃ d < 10, c = Nat.digitChar d := by
  have ⟨hl, hg⟩ := Pointer.digit_bounds h
  refine ⟨c.toNat - 48, by omega, ?_⟩
  conv_lhs => rw [← Char.ofNat_toNat c]
  generalize c.toNat = n at hl hg
  interval_cases n <;> rfl

theorem digit?_digitChar (h : d < 10) : digit? (Nat.digitChar d) = some d := by
  interval_cases d <;> rfl

theorem digits_append (hd : ∀ d ∈ ds, d < 10) (hr : digits cs = ([], cs)) :
    digits (ds.map Nat.digitChar ++ cs) = (ds, cs) := by
  induction ds
  case nil => exact hr
  case cons d ds hi =>
    rw [List.forall_mem_cons] at hd
    simp only [List.map_cons, List.cons_append, digits, digit?_digitChar hd.1, hi hd.2]

theorem natOfDigits_append : natOfDigits (ds ++ ds') = natOfDigits ds * 10 ^ ds'.length + natOfDigits ds' := by
  induction ds' using List.reverseRecOn
  case nil => simp [natOfDigits]
  case append_singleton ds' d hi =>
    simp only [natOfDigits] at hi
    simp only [natOfDigits, ← List.append_assoc, List.foldl_append, hi, List.length_append, List.foldl_cons,
      List.foldl_nil, List.length_cons, List.length_nil]
    ring

theorem natOfDigits_replicate_zero : natOfDigits (List.replicate n 0) = 0 := by
  induction n
  case zero => rfl
  case succ n hi =>
    rw [List.replicate_succ, ← List.singleton_append, natOfDigits_append, hi]
    simp [natOfDigits]

theorem map_digitsOf : (digitsOf n).map Nat.digitChar = Nat.toDigits 10 n := by
  rw [digitsOf, List.map_map]
  refine (List.map_congr_left fun c hc => ?_).trans (List.map_id _)
  obtain ⟨d, hd, rfl⟩ := exists_digitChar (Nat.isDigit_of_mem_toDigits (by decide) (by decide) hc)
  interval_cases d <;> rfl

theorem lt_of_mem_digitsOf (h : d ∈ digitsOf n) : d < 10 := by
  obtain ⟨c, hc, rfl⟩ := List.mem_map.mp h
  obtain ⟨d, hd, rfl⟩ := exists_digitChar (Nat.isDigit_of_mem_toDigits (by decide) (by decide) hc)
  interval_cases d <;> decide

theorem digitsOf_ne_nil : digitsOf n ≠ [] := by
  rw [digitsOf, Ne, List.map_eq_nil_iff]
  exact Nat.toDigits_ne_nil

@[simp]
theorem natOfDigits_digitsOf : natOfDigits (digitsOf n) = n := by
  simpa only [natOfDigits, digitsOf, List.foldl_map, Nat.ofDigitChars, Nat.mul_comm 10] using
    Nat.ofDigitChars_ten_toDigits (n := n)

theorem digitsOf_ne_zero_cons (h : 0 < n) : digitsOf n ≠ 0 :: ds := by
  intro he
  have := congrArg (List.map Nat.digitChar) he
  rw [map_digitsOf] at this
  exact Pointer.head?_toDigits h (by rw [this]; rfl)

end Digits

-- A written number without its sign.
structure Numeral where
  whole : List Nat
  fraction : Option (List Nat)
  exponent : Option Int

namespace Numeral

variable {x : Numeral} {e : Int} {negative : Bool} {f : Option (List Nat)} {o : Option Int}

def fractionChars : Option (List Nat) → List Char
  | none => []
  | some ds => '.' :: ds.map Nat.digitChar

def exponentChars : Option Int → List Char
  | none => []
  | some e => 'e' :: (if e < 0 then '-' else '+') :: Nat.toDigits 10 e.natAbs

def chars (x : Numeral) : List Char := x.whole.map Nat.digitChar ++ (fractionChars x.fraction ++ exponentChars x.exponent)

-- The digits of a number, the point left out.
def digits (x : Numeral) : List Nat := x.whole ++ x.fraction.getD []

def value (x : Numeral) : ℚ := natOfDigits x.digits * 10 ^ (x.exponent.getD 0 - (x.fraction.getD []).length)

-- What the reader asks of a number.
structure WellFormed (x : Numeral) : Prop where
  digit : ∀ d ∈ x.digits, d < 10
  whole : x.whole ≠ []
  lead : ∀ ds, x.whole = 0 :: ds → ds = []
  fraction : x.fraction ≠ some []

-- Whether it is written with a point or an exponent, as floats are.
def IsFloat (x : Numeral) : Prop := x.fraction.isSome ∨ x.exponent.isSome

theorem exponent_append (hr : Closing cs) : Reader.exponent (exponentChars o ++ cs) = some (o, cs) := by
  cases o
  case none =>
    exact hr.cases_head (motive := fun cs => Reader.exponent cs = some (none, cs)) rfl (fun _ => rfl) (fun _ => rfl)
      (fun _ => rfl)
  case some e =>
    have hd : Reader.digits (Nat.toDigits 10 e.natAbs ++ cs) = (digitsOf e.natAbs, cs) := by
      rw [← map_digitsOf]
      exact digits_append (fun _ => lt_of_mem_digitsOf) hr.digits
    have hne := digitsOf_ne_nil (n := e.natAbs)
    have hv := natOfDigits_digitsOf (n := e.natAbs)
    generalize digitsOf e.natAbs = ds at hd hne hv
    cases ds
    case nil => contradiction
    case cons d ds =>
      by_cases he : e < 0
      all_goals
        simp [exponentChars, Reader.exponent, he, hd, hv, -Nat.cast_natAbs]
        omega

theorem digits_tail (hr : Closing cs) :
    Reader.digits (fractionChars f ++ (exponentChars o ++ cs)) = ([], fractionChars f ++ (exponentChars o ++ cs)) := by
  cases f
  case none =>
    cases o
    case none => exact hr.digits
    case some => rfl
  case some => rfl

theorem fraction_append (hd : ∀ d ∈ f.getD [], d < 10) (hf : f ≠ some []) (hr : Closing cs) :
    Reader.fraction (fractionChars f ++ (exponentChars o ++ cs)) = some (f, exponentChars o ++ cs) := by
  cases f
  case none =>
    cases o
    case none =>
      exact hr.cases_head (motive := fun cs => Reader.fraction cs = some (none, cs)) rfl (fun _ => rfl) (fun _ => rfl)
        (fun _ => rfl)
    case some => rfl
  case some ds =>
    have hds := digits_append hd (digits_tail (f := none) (o := o) hr)
    cases ds
    case nil => contradiction
    case cons d ds =>
      simp only [Option.getD_some, List.map_cons, List.cons_append, fractionChars, List.nil_append] at hds
      simp [fractionChars, Reader.fraction, hds]

theorem WellFormed.exists_chars (hx : x.WellFormed) : ∃ d < 10, ∃ rest, x.chars = Nat.digitChar d :: rest := by
  obtain ⟨d, ds, hd⟩ := List.exists_cons_of_ne_nil hx.whole
  refine ⟨d, hx.digit d (by simp [digits, hd]), ?_⟩
  rw [chars, hd, List.map_cons, List.cons_append]
  exact ⟨_, rfl⟩

-- A number is read part by part.
def read? (cs : List Char) : Option (Numeral × List Char) := do
  let (whole, rest) := Reader.digits cs
  let (fraction, rest) ← Reader.fraction rest
  let (exponent, rest) ← Reader.exponent rest
  return (⟨whole, fraction, exponent⟩, rest)

theorem WellFormed.read?_append (hx : x.WellFormed) (hr : Closing cs) : read? (x.chars ++ cs) = some (x, cs) := by
  have ⟨hw, hf⟩ := List.forall_mem_append.mp hx.digit
  simp only [read?, chars, List.append_assoc, digits_append hw (digits_tail hr), fraction_append hf hx.fraction hr,
    Option.bind_eq_bind, Option.bind_some, exponent_append hr]
  rfl

theorem WellFormed.unsigned_append (hx : x.WellFormed) (hr : Closing cs) :
    unsigned negative (x.chars ++ cs) = (assemble negative x.whole x.fraction x.exponent).map (·, cs) := by
  have ⟨hw, hf⟩ := List.forall_mem_append.mp hx.digit
  have hne := hx.whole
  have hlead := hx.lead
  simp only [unsigned, chars, List.append_assoc, digits_append hw (digits_tail hr), fraction_append hf hx.fraction hr,
    Option.bind_eq_bind, Option.bind_some, exponent_append hr]
  split
  case h_1 h => contradiction
  case h_2 h => exact nomatch hlead _ h
  case h_3 => cases assemble negative x.whole x.fraction x.exponent <;> rfl

-- Digits with the point set where the exponent puts it.
def positional (ds : List Nat) (e : Int) : Numeral :=
  let point : Int := ds.length + e
  if 0 ≤ e then ⟨ds ++ List.replicate e.toNat 0, some [0], none⟩
  else if 0 < point then ⟨ds.take point.toNat, some (ds.drop point.toNat), none⟩
  else ⟨[0], some (List.replicate (-point).toNat 0 ++ ds), none⟩

-- One digit before the point, and the exponent that this takes.
def scientific (ds : List Nat) (e : Int) : Numeral :=
  ⟨ds.take 1, if ds.drop 1 = [] then none else some (ds.drop 1), some (ds.length - 1 + e)⟩

theorem chars_positional :
    (positional ds e).chars = Number.floatLayout.positionalText (ds.map Nat.digitChar) e := by
  simp only [positional, FloatLayout.positionalText, List.length_map]
  split
  case isTrue => simp [chars, fractionChars, exponentChars, Number.floatLayout, show Nat.digitChar 0 = '0' from rfl]
  case isFalse =>
    split
    case isTrue => simp [chars, fractionChars, exponentChars]
    case isFalse => simp [chars, fractionChars, exponentChars, show Nat.digitChar 0 = '0' from rfl]

theorem chars_scientific :
    (scientific ds e).chars = FloatLayout.scientificText (ds.map Nat.digitChar) (ds.length - 1 + e) := by
  match ds with
  | [] => simp [scientific, chars, fractionChars, exponentChars, FloatLayout.scientificText]
  | [d] => simp [scientific, chars, fractionChars, exponentChars, FloatLayout.scientificText]
  | d :: d' :: ds => simp [scientific, chars, fractionChars, exponentChars, FloatLayout.scientificText]

theorem value_positional : (positional ds e).value = natOfDigits ds * 10 ^ e := by
  simp only [positional]
  split
  case isTrue he =>
    obtain ⟨n, rfl⟩ := Int.eq_ofNat_of_zero_le he
    simp [value, digits, natOfDigits_append, natOfDigits_replicate_zero, show natOfDigits [0] = 0 from rfl]
    ring
  case isFalse he =>
    split
    case isTrue hp =>
      have hlen : -((ds.length - (ds.length + e).toNat : Nat) : Int) = e := by omega
      simp only [value, digits, Option.getD_some, List.take_append_drop, Option.getD_none, List.length_drop, zero_sub, hlen]
    case isFalse hp =>
      have hlen : -(((-(ds.length + e)).toNat + ds.length : Nat) : Int) = e := by omega
      simp only [value, digits, Option.getD_some, Option.getD_none, List.length_append, List.length_replicate, zero_sub,
        hlen, natOfDigits_append, natOfDigits_replicate_zero]
      simp [natOfDigits]

theorem digits_scientific : (scientific ds e).digits = ds := by
  match ds with
  | [] | [_] | _ :: _ :: _ => simp [scientific, digits]

theorem value_scientific (hne : ds ≠ []) : (scientific ds e).value = natOfDigits ds * 10 ^ e := by
  rw [value, digits_scientific]
  congr 2
  match ds with
  | [_] | _ :: _ :: _ => simp [scientific]

theorem wellFormed_positional (hd : ∀ d ∈ ds, d < 10) (hne : ds ≠ []) (hz : ∀ ds', ds ≠ 0 :: ds') :
    (positional ds e).WellFormed := by
  obtain ⟨d, ds, rfl⟩ := List.exists_cons_of_ne_nil hne
  have hd0 : d ≠ 0 := fun h => hz ds (h ▸ rfl)
  simp only [positional]
  split
  case isTrue he =>
    constructor
    · simpa [digits, or_imp, forall_and] using hd
    · simp
    · simp [hd0]
    · simp
  case isFalse he =>
    split
    case isTrue hp =>
      obtain ⟨k, hk, hlt⟩ : ∃ k, ((d :: ds).length + e).toNat = k + 1 ∧ k + 1 < (d :: ds).length :=
        ⟨((d :: ds).length + e).toNat - 1, by omega, by omega⟩
      rw [hk]
      constructor
      · simpa [digits] using hd
      · simp
      · simp [hd0]
      · simpa using hlt
    case isFalse hp =>
      constructor
      · simpa [digits, or_imp, forall_and] using hd
      · simp
      · simp
      · simp

theorem wellFormed_scientific (hd : ∀ d ∈ ds, d < 10) (hne : ds ≠ []) : (scientific ds e).WellFormed := by
  obtain ⟨d, ds, rfl⟩ := List.exists_cons_of_ne_nil hne
  refine ⟨by rwa [digits_scientific], ?_, ?_, ?_⟩
  · simp [scientific]
  · simp [scientific]
  · simp [scientific]

end Numeral

end Json

namespace Number

open Json Reader

variable {x y : Number} {r s : List Char} {f : Float}

-- What the text of a number writes: its sign and its digits.
def isNegative : Number → Bool
  | .int i _ => decide (i < 0)
  | .float f _ => isSigned f

def signChars (negative : Bool) : List Char := if negative then ['-'] else []

-- The text of the size of a float.
def floatNumeral (f : Float) : Numeral :=
  let m := Magnitude.ofFloat f
  if m.mantissa = 0 then .positional [0] 0
  else
    let ds := digitsOf m.shortest.digits
    let scientific : Int := ds.length - 1 + m.shortest.exponent
    if -5 ≤ scientific ∧ scientific ≤ 15 then .positional ds m.shortest.exponent else .scientific ds m.shortest.exponent

def numeral : Number → Numeral
  | .int i _ => ⟨digitsOf i.natAbs, none, none⟩
  | .float f _ => floatNumeral f

theorem toList_render : (floatLayout.render f).toList = signChars (isSigned f) ++ (floatNumeral f).chars := by
  simp only [FloatLayout.render, floatNumeral, signChars]
  split
  case isTrue => simp [Numeral.chars_positional, show Nat.digitChar 0 = '0' from rfl]
  case isFalse =>
    have hlen : (Nat.toDigits 10 (Magnitude.ofFloat f).shortest.digits).length =
        (digitsOf (Magnitude.ofFloat f).shortest.digits).length := by rw [digitsOf, List.length_map]
    rw [show floatLayout.positional = some (-5, 15) from rfl, hlen, ← map_digitsOf]
    simp only [decide_eq_true_eq, String.toList_ofList, apply_ite Numeral.chars, Numeral.chars_positional,
      Numeral.chars_scientific]

theorem toList_text : x.text.toList = signChars x.isNegative ++ x.numeral.chars := by
  cases x
  case int i hi =>
    rw [text, Int.toString_eq_repr, numeral, Numeral.chars, map_digitsOf]
    cases i
    case ofNat n => simp [Int.repr, isNegative, signChars, Numeral.fractionChars, Numeral.exponentChars]
    case negSucc n =>
      simp [Int.repr, isNegative, signChars, Numeral.fractionChars, Numeral.exponentChars, Int.natAbs_negSucc,
        Int.negSucc_lt_zero]
  case float f hf => exact toList_render

-- The size that the digits of a float give.
theorem value_floatNumeral :
    (floatNumeral f).value = if (Magnitude.ofFloat f).mantissa = 0 then 0 else (Magnitude.ofFloat f).shortest.value := by
  simp only [floatNumeral]
  split
  case isTrue => rw [Numeral.value_positional]; simp [natOfDigits]
  case isFalse =>
    rw [apply_ite Numeral.value, Numeral.value_positional, Numeral.value_scientific digitsOf_ne_nil,
      natOfDigits_digitsOf, ite_self]
    rfl

theorem isFloat_floatNumeral : (floatNumeral f).IsFloat := by
  simp only [floatNumeral, Numeral.positional, Numeral.scientific]
  repeat' split
  all_goals simp [Numeral.IsFloat]

theorem shortest_digits_pos (hf : f.isFinite = true) (hm : (Magnitude.ofFloat f).mantissa ≠ 0) :
    0 < (Magnitude.ofFloat f).shortest.digits := by
  have hv := (canonical_ofFloat hf).value_shortest_pos (Nat.pos_of_ne_zero hm)
  refine Nat.pos_of_ne_zero fun hz => hv.ne' ?_
  rw [Decimal.value, hz]
  simp

theorem wellFormed_numeral : x.numeral.WellFormed := by
  cases x
  case int i hi =>
    constructor
    · simpa [numeral, Numeral.digits] using fun _ => lt_of_mem_digitsOf
    · exact digitsOf_ne_nil
    · intro ds hds
      rcases Nat.eq_zero_or_pos i.natAbs with hz | hpos
      case inl =>
        obtain rfl : i = 0 := by omega
        exact (List.cons.inj hds).2.symm
      case inr => exact absurd hds (digitsOf_ne_zero_cons hpos)
    · simp [numeral]
  case float f hf =>
    simp only [numeral, floatNumeral]
    split
    case isTrue => exact ⟨by decide, by decide, by simp [Numeral.positional], by decide⟩
    case isFalse hm =>
      have hpos := shortest_digits_pos hf hm
      split
      case isTrue =>
        exact Numeral.wellFormed_positional (fun _ => lt_of_mem_digitsOf) digitsOf_ne_nil fun _ => digitsOf_ne_zero_cons hpos
      case isFalse => exact Numeral.wellFormed_scientific (fun _ => lt_of_mem_digitsOf) digitsOf_ne_nil

theorem eq_of_floatNumeral {g : Float} (hf : f.isFinite = true) (hg : g.isFinite = true) (hs : isSigned f = isSigned g)
    (h : floatNumeral f = floatNumeral g) : f = g := by
  have hcf := canonical_ofFloat hf
  have hcg := canonical_ofFloat hg
  have hv : (floatNumeral f).value = (floatNumeral g).value := by rw [h]
  rw [value_floatNumeral, value_floatNumeral] at hv
  refine eq_of_ofFloat hs ?_
  have hz {m : Magnitude} (hc : m.IsCanonical) (hm : m.mantissa = 0) : m = ⟨0, -1074⟩ := by
    obtain ⟨mantissa, exponent⟩ := m
    obtain rfl : mantissa = 0 := hm
    have := hc.leading
    simpa using this
  have hp {m : Magnitude} (hc : m.IsCanonical) (hm : m.mantissa ≠ 0) : 0 ≠ m.shortest.value :=
    (hc.value_shortest_pos (Nat.pos_of_ne_zero hm)).ne
  split at hv <;> split at hv
  case isTrue.isTrue hf0 hg0 => rw [hz hcf hf0, hz hcg hg0]
  case isTrue.isFalse hg0 => exact absurd hv (hp hcg hg0)
  case isFalse.isTrue hf0 _ => exact absurd hv.symm (hp hcf hf0)
  case isFalse.isFalse hf0 hg0 =>
    exact Magnitude.eq_of_value_shortest hcf hcg (Nat.pos_of_ne_zero hf0) (Nat.pos_of_ne_zero hg0) hv

-- A number is its sign and its digits.
theorem eq_of_numeral (hs : x.isNegative = y.isNegative) (h : x.numeral = y.numeral) : x = y := by
  cases x <;> cases y
  case int.int i hi j hj =>
    have hn : i.natAbs = j.natAbs := by
      have := congrArg (natOfDigits ·.whole) h
      simpa [numeral] using this
    simp only [isNegative, decide_eq_decide] at hs
    obtain rfl : i = j := by omega
    rfl
  case float.float f hf g hg =>
    obtain rfl := eq_of_floatNumeral hf hg hs h
    rfl
  case int.float g hg =>
    have := isFloat_floatNumeral (f := g)
    rw [show floatNumeral g = _ from h.symm] at this
    simp [numeral, Numeral.IsFloat] at this
  case float.int f hf j hj =>
    have := isFloat_floatNumeral (f := f)
    rw [show floatNumeral f = _ from h] at this
    simp [numeral, Numeral.IsFloat] at this

theorem signChars_append_inj {b b' : Bool} {m n : Numeral} (hm : m.WellFormed) (hn : n.WellFormed)
    (h : signChars b ++ (m.chars ++ r) = signChars b' ++ (n.chars ++ s)) : b = b' ∧ m.chars ++ r = n.chars ++ s := by
  have hne {n : Numeral} {r s : List Char} (hn : n.WellFormed) : '-' :: r ≠ n.chars ++ s := by
    obtain ⟨d, hd, rest, hc⟩ := hn.exists_chars
    rw [hc, List.cons_append, Ne, List.cons.injEq, not_and]
    interval_cases d <;> simp [Nat.digitChar]
  cases b <;> cases b'
  case false.false => exact ⟨rfl, h⟩
  case true.true => exact ⟨rfl, (List.cons.inj h).2⟩
  case false.true => exact absurd h.symm (hne hm)
  case true.false => exact absurd h (hne hn)

-- Texts of numbers that something closes are cut in one way only.
theorem text_append_inj (hr : Closing r) (hs : Closing s) (h : x.text.toList ++ r = y.text.toList ++ s) :
    x = y ∧ r = s := by
  rw [toList_text, toList_text, List.append_assoc, List.append_assoc] at h
  obtain ⟨hsign, hchars⟩ := signChars_append_inj wellFormed_numeral wellFormed_numeral h
  have hread := wellFormed_numeral.read?_append (x := x.numeral) hr
  rw [hchars, wellFormed_numeral.read?_append hs] at hread
  obtain ⟨hn, rfl⟩ := Prod.mk.inj (Option.some.inj hread)
  exact ⟨eq_of_numeral hsign hn.symm, rfl⟩

-- What the reader makes of the text of a number.
theorem scalar_text_append (hr : Closing r) :
    scalar (x.text.toList ++ r) =
      (assemble x.isNegative x.numeral.whole x.numeral.fraction x.numeral.exponent).map (·, r) := by
  have hx := wellFormed_numeral (x := x)
  rw [toList_text, List.append_assoc, ← hx.unsigned_append hr]
  cases x.isNegative
  case true => rfl
  case false =>
    obtain ⟨d, hd, rest, hc⟩ := hx.exists_chars
    rw [signChars, if_neg (by decide), List.nil_append, hc, List.cons_append]
    interval_cases d <;> rfl

-- An integer is read exactly.
theorem assemble_int {i : Int} {hi : -0x8000000000000000 ≤ i ∧ i < 0x10000000000000000} :
    assemble (decide (i < 0)) (digitsOf i.natAbs) none none = some (.num (.int i hi)) := by
  have hi' : (if decide (i < 0) = true then -(i.natAbs : Int) else i.natAbs) = i := by
    simp only [decide_eq_true_eq]
    split <;> omega
  have hz : (decide (i < 0) && (i.natAbs : Int) == 0) = false := by
    simp only [Bool.and_eq_false_imp, decide_eq_true_eq, beq_eq_false_iff_ne]
    omega
  simp only [assemble, natOfDigits_digitsOf, hi', hz]
  rw [dif_pos ⟨rfl, hi⟩]

end Number

end FormModel
