import FormModel.Proofs.Decimal.Nearest
import FormModel.Proofs.Json.Numeral

/-!
The text of a float is read as that float.  Its digits are read one by one, whether or not a point or an exponent stands
among them, and the number that they write rounds to the float.
-/

namespace FormModel

namespace Decimal

open Json (Numeral digitsOf)
open Json.Numeral (fractionChars exponentChars)

variable {cs : List Char} {ds : List Nat} {x : Numeral} {e : Int} {o : Option Int} {d : Nat} {f : Float}

/-! ### Digits -/

theorem splitDigits_eq : (cs : List Char) → splitDigits cs = Json.Reader.digits cs
  | [] => rfl
  | c :: rest => by
    rw [splitDigits, Json.Reader.digits, splitDigits_eq rest]
    rfl

theorem splitDigits_append (hd : ∀ d ∈ ds, d < 10) (hr : Json.Reader.digits cs = ([], cs)) :
    splitDigits (ds.map Nat.digitChar ++ cs) = (ds, cs) :=
  (splitDigits_eq _).trans (Json.digits_append hd hr)

theorem splitDigits_toDigits {n : Nat} : splitDigits (Nat.toDigits 10 n) = (digitsOf n, []) := by
  rw [← Json.map_digitsOf, ← List.append_nil (List.map _ _)]
  exact splitDigits_append (fun _ => Json.lt_of_mem_digitsOf) rfl

/-! ### Numbers without a sign -/

theorem readExponent_exponentChars : readExponent (exponentChars o) = some (o.getD 0) := by
  cases o
  case none => rfl
  case some e =>
    have hne := Json.digitsOf_ne_nil (n := e.natAbs)
    have hv : natOfDigits (digitsOf e.natAbs) = e.natAbs := Json.natOfDigits_digitsOf
    have hd := splitDigits_toDigits (n := e.natAbs)
    generalize digitsOf e.natAbs = ds at hd hne hv
    cases ds
    case nil => contradiction
    case cons d ds =>
      rw [exponentChars]
      by_cases he : e < 0
      case pos =>
        simp only [if_pos he, readExponent, true_or, if_true, splitSign, hd, hv, Option.getD_some, Option.some.injEq]
        omega
      case neg =>
        simp only [if_neg he, readExponent, true_or, if_true, splitSign, hd, hv, Bool.false_eq_true, if_false,
          Option.getD_some, Option.some.injEq]
        omega

theorem closing_nil : Json.Closing [] := fun _ h => nomatch h

theorem exponentChars_ne : exponentChars o ≠ '.' :: cs := by
  cases o <;> simp [exponentChars]

-- Whether or not there is a point, the digits behind it and the exponent are found.
theorem readUnsigned_chars (hx : x.WellFormed) :
    readUnsigned x.chars =
      some (nearestFloat (natOfDigits x.digits) (x.exponent.getD 0 - (x.fraction.getD []).length)) := by
  obtain ⟨whole, fraction, o⟩ := x
  have ⟨hw, hf⟩ := List.forall_mem_append.mp hx.digit
  have hwhole : whole.isEmpty = false := List.isEmpty_eq_false_iff.mpr hx.whole
  have hrest := Json.Numeral.digits_tail (f := fraction) (o := o) closing_nil
  rw [List.append_nil] at hrest
  have hsplit := splitDigits_append hw hrest
  unfold readUnsigned
  simp only [Numeral.chars, hsplit]
  cases fraction
  case none =>
    rw [fractionChars, List.nil_append]
    split
    case h_1 h => exact absurd h exponentChars_ne
    case h_2 =>
      simp only [hwhole, Bool.false_and, Bool.false_eq_true, if_false, readExponent_exponentChars]
      rfl
  case some ds =>
    have htail := Json.Numeral.digits_tail (f := none) (o := o) closing_nil
    rw [fractionChars, List.nil_append, List.append_nil] at htail
    have hfraction : splitDigits (ds.map Nat.digitChar ++ exponentChars o) = (ds, exponentChars o) :=
      splitDigits_append hf htail
    simp only [fractionChars, List.cons_append, hfraction, hwhole, Bool.false_and, Bool.false_eq_true, if_false,
      readExponent_exponentChars]
    rfl

/-! ### The text as a whole -/

theorem trimBlanks_of_forall (h : ∀ c ∈ cs, isBlank c = false) : trimBlanks cs = cs := by
  have hdrop {cs : List Char} (h : ∀ c ∈ cs, isBlank c = false) : cs.dropWhile isBlank = cs := by
    cases cs
    case nil => rfl
    case cons c rest => rw [List.dropWhile_cons_of_neg (by simp [h c List.mem_cons_self])]
  rw [trimBlanks, trimFront, hdrop h, trimBack, hdrop fun c hc => h c (List.mem_reverse.mp hc), List.reverse_reverse]

theorem isBlank_digitChar (hd : d < 10) : isBlank (Nat.digitChar d) = false := by
  interval_cases d <;> rfl

theorem isBlank_of_mem_digits {n : Nat} {c : Char} (hc : c ∈ Nat.toDigits 10 n) : isBlank c = false := by
  obtain ⟨d, hd, rfl⟩ := Json.exists_digitChar (Nat.isDigit_of_mem_toDigits (by decide) (by decide) hc)
  exact isBlank_digitChar hd

theorem isBlank_of_mem_chars {c : Char} (hx : x.WellFormed) (hc : c ∈ x.chars) : isBlank c = false := by
  have hdigits {ds : List Nat} (hd : ∀ d ∈ ds, d < 10) (hc : c ∈ ds.map Nat.digitChar) : isBlank c = false := by
    obtain ⟨d, hmem, rfl⟩ := List.mem_map.mp hc
    exact isBlank_digitChar (hd d hmem)
  obtain ⟨whole, fraction, o⟩ := x
  have ⟨hw, hf⟩ := List.forall_mem_append.mp hx.digit
  rcases List.mem_append.mp hc with hc | hc
  case inl => exact hdigits hw hc
  case inr =>
    rcases List.mem_append.mp hc with hc | hc
    case inl =>
      cases fraction
      case none => contradiction
      case some ds =>
        rcases List.mem_cons.mp hc with rfl | hc
        · rfl
        · exact hdigits hf hc
    case inr =>
      cases o
      case none => contradiction
      case some e =>
        rcases List.mem_cons.mp hc with rfl | hc
        · rfl
        · rcases List.mem_cons.mp hc with rfl | hc
          · split <;> rfl
          · exact isBlank_of_mem_digits hc

-- No word for a number begins with a digit, and neither does a sign.
theorem readFloat?_signChars {negative : Bool} (hd : d < 10) :
    readFloat? (Number.signChars negative ++ Nat.digitChar d :: cs) =
      (readUnsigned (Nat.digitChar d :: cs)).map fun f => if negative then -f else f := by
  have hsign : splitSign (Number.signChars negative ++ Nat.digitChar d :: cs) = (negative, Nat.digitChar d :: cs) := by
    cases negative
    case true => rfl
    case false => interval_cases d <;> rfl
  have hword {w : Char} {word : String} (hw : word.toList.head? = some w) (hne : ∀ d < 10, (Nat.digitChar d).toLower ≠ w) :
      String.ofList (lowerAscii (Nat.digitChar d :: cs)) ≠ word := by
    rintro rfl
    exact hne d hd (by simpa [lowerAscii] using hw)
  unfold readFloat?
  simp only [hsign]
  rw [if_neg (not_or.mpr ⟨hword (w := 'i') rfl (by decide), hword (w := 'i') rfl (by decide)⟩),
    if_neg (hword (w := 'n') rfl (by decide))]

theorem isBlank_of_mem_text {x : Number} {c : Char} (hc : c ∈ x.text.toList) : isBlank c = false := by
  rw [Number.toList_text] at hc
  rcases List.mem_append.mp hc with hc | hc
  case inl =>
    unfold Number.signChars at hc
    split at hc
    case isTrue => exact List.mem_singleton.mp hc ▸ rfl
    case isFalse => contradiction
  case inr => exact isBlank_of_mem_chars Number.wellFormed_numeral hc

-- The float nearest to a written number, with its sign.
def nearestOf (negative : Bool) (x : Numeral) : Float :=
  let size := nearestFloat (natOfDigits x.digits) (x.exponent.getD 0 - (x.fraction.getD []).length)
  if negative then -size else size

theorem parse?_text_eq {x : Number} : parse? x.text = (some (nearestOf x.isNegative x.numeral)).filter Float.isFinite := by
  have hx := Number.wellFormed_numeral (x := x)
  have ⟨d, hd, rest, hchars⟩ := hx.exists_chars
  rw [parse?, trimBlanks_of_forall fun _ => isBlank_of_mem_text, Number.toList_text, hchars, readFloat?_signChars hd,
    ← hchars, readUnsigned_chars hx]
  rfl

-- The digits of a float write a number that rounds to it, so the nearest float is that float again.
theorem nearestOf_floatNumeral (hf : f.isFinite = true) : nearestOf (isSigned f) (Number.floatNumeral f) = f := by
  have hvalue := Number.value_floatNumeral (f := f)
  by_cases hm : (Magnitude.ofFloat f).mantissa = 0
  case pos =>
    have hzero : Number.floatNumeral f = .positional [0] 0 := by simp only [Number.floatNumeral, if_pos hm]
    rw [hzero]
    exact signed_zero_eq hf hm
  case neg =>
    rw [if_neg hm] at hvalue
    have hcanonical := canonical_ofFloat hf
    have hq := hcanonical.roundsFrom_shortest (Nat.pos_of_ne_zero hm)
    have hpos := hcanonical.value_shortest_pos (Nat.pos_of_ne_zero hm)
    rw [← hvalue, Numeral.value] at hq hpos
    refine nearestFloat_of_roundsFrom hf hm (Nat.pos_of_ne_zero fun hz => ?_) hq
    rw [show Json.Reader.natOfDigits (Number.floatNumeral f).digits = 0 from hz] at hpos
    simp at hpos

theorem parse?_text {hf : f.isFinite = true} : parse? (Number.text (.float f hf)) = some f := by
  have hnearest : nearestOf (Number.float f hf).isNegative (Number.float f hf).numeral = f := nearestOf_floatNumeral hf
  rw [parse?_text_eq, hnearest, Option.filter_some, if_pos hf]

end Decimal
end FormModel
