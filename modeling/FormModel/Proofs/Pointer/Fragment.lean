import FormModel.Proofs.Pointer.Text
import Mathlib.Data.List.Basic

/-!
Pointers written behind a hash sign, which are percent-decoded when they are read.  Decoding uses up a percent sign,
or the digit two of an encoded one, and nothing in the way tokens are written brings one of them back; so a pointer
comes back only if it has nothing to decode.
-/

namespace FormModel

namespace Percent

variable {bs : List UInt8} {a b high low : UInt8} {s : String}

-- Whether a byte is a percent sign or the digit two.
def isMark (b : UInt8) : Bool := b == 37 || b == 50

-- The decimal digits, the capital and the small letters.
theorem hexDigit?_cases (h : hexDigit? b = some high) :
    (48 ≤ b.toNat ∧ b.toNat ≤ 57 ∧ high.toNat + 48 = b.toNat) ∨ (65 ≤ b.toNat ∧ b.toNat ≤ 70 ∧ high.toNat + 55 = b.toNat) ∨
      (97 ≤ b.toNat ∧ b.toNat ≤ 102 ∧ high.toNat + 87 = b.toNat) := by
  unfold hexDigit? at h
  repeat' split at h
  case isFalse.isFalse.isFalse => contradiction
  all_goals
    rename_i hb
    obtain rfl := Option.some.inj h
    simp only [UInt8.le_iff_toNat_le, UInt8.toNat_sub, UInt8.reduceToNat] at hb ⊢
    omega

-- Of the hexadecimal digits, only the digit two has the value two.
theorem hexDigit?_bounds (h : hexDigit? b = some high) : high.toNat < 16 ∧ (high.toNat = 2 → b = 50) := by
  have hc := hexDigit?_cases h
  simp only [← UInt8.toNat_inj, UInt8.reduceToNat]
  omega

theorem toNat_decoded (ha : hexDigit? a = some high) (hb : hexDigit? b = some low) :
    (high * 16 + low).toNat = high.toNat * 16 + low.toNat := by
  have ⟨hhigh, _⟩ := hexDigit?_bounds ha
  have ⟨hlow, _⟩ := hexDigit?_bounds hb
  simp only [UInt8.toNat_add, UInt8.toNat_mul, UInt8.reduceToNat]
  omega

theorem isMark_decoded (ha : hexDigit? a = some high) (hb : hexDigit? b = some low) (h : isMark (high * 16 + low) = true) :
    isMark a = true ∨ isMark b = true := by
  have hv := toNat_decoded ha hb
  have ⟨hhigh, ha⟩ := hexDigit?_bounds ha
  have ⟨hlow, hb⟩ := hexDigit?_bounds hb
  simp only [isMark, Bool.or_eq_true, beq_iff_eq, ← UInt8.toNat_inj (a := high * 16 + low), hv, UInt8.reduceToNat] at h ⊢
  have hd : high.toNat = 2 ∨ low.toNat = 2 := by omega
  exact hd.imp (.inr ∘ ha) (.inr ∘ hb)

theorem decodeBytes_eq_or_lt : decodeBytes bs = bs ∨ (decodeBytes bs).countP isMark < bs.countP isMark := by
  fun_induction decodeBytes bs
  case case1 a b rest high low hb ha hi =>
    right
    have hm := isMark_decoded ha hb
    have hle : (decodeBytes rest).countP isMark ≤ rest.countP isMark := hi.elim (fun h => Nat.le_of_eq (by rw [h])) Nat.le_of_lt
    have hp : isMark 37 = true := rfl
    simp only [List.countP_cons, hp, if_true]
    cases hout : isMark (high * 16 + low)
    case false => simp; omega
    case true => rcases hm hout with h | h <;> simp [h] <;> omega
  case case2 a b rest _ hi =>
    simpa only [List.cons.injEq, true_and, List.countP_cons, Nat.add_lt_add_iff_right] using hi
  case case3 b rest _ hi =>
    simpa only [List.cons.injEq, true_and, List.countP_cons, Nat.add_lt_add_iff_right] using hi
  case case4 => exact .inl rfl

theorem toList_eq_data_toList (bytes : ByteArray) : bytes.toList = bytes.data.toList := by
  have hloop : ∀ i r, ByteArray.toList.loop bytes i r = r.reverse ++ bytes.data.toList.drop i := by
    intro i r
    fun_induction ByteArray.toList.loop bytes i r
    case case1 i r h hi =>
      have hlt : i < bytes.data.toList.length := by simpa using h
      rw [hi, List.drop_eq_getElem_cons hlt]
      simp [ByteArray.get!, h]
    case case2 i r h =>
      rw [List.drop_eq_nil_of_le (by simpa using Nat.le_of_not_lt h), List.append_nil]
  exact (hloop 0 []).trans (by simp)

theorem eq_of_toList_toUTF8 {t : String} (h : s.toUTF8.toList = t.toUTF8.toList) : s = t := by
  rw [toList_eq_data_toList, toList_eq_data_toList, Array.toList_inj] at h
  exact String.toByteArray_inj.mp (ByteArray.ext h)

theorem toList_toUTF8 : s.toUTF8.toList = s.toList.flatMap String.utf8EncodeChar := by
  conv => lhs; rw [← String.ofList_toList (s := s)]
  rw [String.toUTF8_eq_toByteArray, toList_eq_data_toList]
  exact List.toList_data_toByteArray

-- The bytes of a character of more than one byte are no characters themselves.
theorem toNat_eq_of_mem_utf8EncodeChar {c : Char} (h : b ∈ String.utf8EncodeChar c) (hb : b.toNat < 128) :
    c.toNat = b.toNat := by
  unfold String.utf8EncodeChar at h
  dsimp only at h
  split at h
  case isTrue hc =>
    rw [List.mem_singleton.mp h, UInt8.toNat_ofNat', Nat.mod_eq_of_lt (by omega)]
    rfl
  case isFalse =>
    split at h <;> try split at h
    all_goals
      simp only [List.mem_cons, List.not_mem_nil, or_false, ← UInt8.toNat_inj, UInt8.toNat_ofNat'] at h
      omega

-- Whether a character is a percent sign or the digit two.
def isMarkChar (c : Char) : Bool := c == '%' || c == '2'

theorem isMarkChar_eq {c : Char} : isMarkChar c = (c.toNat == 37 || c.toNat == 50) := by
  simp only [isMarkChar, Bool.beq_eq_decide_eq, Char.ext_iff, Char.toNat, ← UInt32.toNat_inj]
  rfl

theorem isMark_eq : isMark b = (b.toNat == 37 || b.toNat == 50) := by
  simp only [isMark, Bool.beq_eq_decide_eq, ← UInt8.toNat_inj, UInt8.reduceToNat]

theorem countP_utf8EncodeChar {c : Char} : (String.utf8EncodeChar c).countP isMark = if isMarkChar c then 1 else 0 := by
  split
  case isTrue h =>
    rw [isMarkChar, Bool.or_eq_true, beq_iff_eq, beq_iff_eq] at h
    rcases h with rfl | rfl <;> rfl
  case isFalse h =>
    refine List.countP_eq_zero.mpr fun b hb hm => h ?_
    simp only [isMark_eq, Bool.or_eq_true, beq_iff_eq] at hm
    simpa [isMarkChar_eq, toNat_eq_of_mem_utf8EncodeChar hb (by omega)] using hm

theorem countP_toUTF8 : s.toUTF8.toList.countP isMark = s.toList.countP isMarkChar := by
  rw [toList_toUTF8]
  induction s.toList
  case nil => rfl
  case cons c cs hi => simp [countP_utf8EncodeChar, List.countP_cons, hi, Nat.add_comm]

-- Whether the bytes that a text stands for are those of a text.
def Decodes (s : String) : Prop := (ByteArray.mk (decodeBytes s.toUTF8.toList).toArray).IsValidUTF8

theorem decode_of_not_decodes (h : ¬Decodes s) : decode s = s := by
  rw [Decodes] at h
  rw [decode, String.fromUTF8?, dif_neg h, Option.getD_none]

theorem toUTF8_decode (h : Decodes s) : (decode s).toUTF8.toList = decodeBytes s.toUTF8.toList := by
  rw [Decodes] at h
  rw [decode, String.fromUTF8?, dif_pos h, Option.getD_some]
  exact toList_eq_data_toList _

theorem decode_eq_or_lt : decode s = s ∨ (decode s).toList.countP isMarkChar < s.toList.countP isMarkChar := by
  by_cases h : Decodes s
  case neg => exact .inl (decode_of_not_decodes h)
  case pos =>
    rw [← countP_toUTF8, ← countP_toUTF8, toUTF8_decode h]
    exact decodeBytes_eq_or_lt.imp_left fun he => eq_of_toList_toUTF8 ((toUTF8_decode h).trans he)

end Percent

namespace Pointer

open Percent (isMarkChar)

variable {a b c : Char} {cs : List Char} {tokens : Tokens} {fragment : String}

theorem countP_replacePair (ha : isMarkChar a = false) (hb : isMarkChar b = false) (hc : isMarkChar c = false) :
    (replacePair a b c cs).countP isMarkChar = cs.countP isMarkChar := by
  fun_induction replacePair a b c cs
  case case1 x y rest h hi =>
    obtain ⟨rfl, rfl⟩ := h
    simp [ha, hb, hc, hi]
  case case2 x y rest _ hi => rw [List.countP_cons, hi, ← List.countP_cons]
  case case3 => rfl

theorem countP_unescapeChars : (unescapeChars cs).countP isMarkChar = cs.countP isMarkChar := by
  rw [unescapeChars, countP_replacePair rfl rfl rfl, countP_replacePair rfl rfl rfl]

theorem countP_escapeChars : (escapeChars cs).countP isMarkChar = cs.countP isMarkChar := by
  conv => rhs; rw [← @unescapeChars_escapeChars cs]
  exact countP_unescapeChars.symm

theorem countP_splitSlashes : (splitSlashes cs).flatten.countP isMarkChar = cs.countP isMarkChar := by
  induction cs
  case nil => rfl
  case cons c cs hi =>
    rw [splitSlashes]
    split
    case isTrue h => rw [List.flatten_cons, List.nil_append, hi, h, List.countP_cons_of_neg (by decide)]
    case isFalse =>
      split
      case h_1 part parts hs =>
        rw [hs, List.flatten_cons] at hi
        rw [List.flatten_cons, List.cons_append, List.countP_cons, hi, List.countP_cons]
      case h_2 hs => exact absurd hs splitSlashes_ne_nil

theorem countP_bodyOf (h : tokensOfBody cs = some tokens) : (bodyOf tokens).countP isMarkChar = cs.countP isMarkChar := by
  have hparts : ∀ parts : List (List Char), (bodyOf (parts.map fun part => String.ofList (unescapeChars part))).countP isMarkChar =
      parts.flatten.countP isMarkChar := by
    intro parts
    induction parts
    case nil => rfl
    case cons part parts hi =>
      simp only [bodyOf] at hi
      rw [List.map_cons, bodyOf, List.flatMap_cons, List.countP_append, hi, List.countP_cons_of_neg (by decide),
        String.toList_ofList, countP_escapeChars, countP_unescapeChars, List.flatten_cons, List.countP_append]
  rw [tokensOfBody.eq_def] at h
  split at h
  case h_1 | h_2 =>
    obtain rfl := Option.some.inj h
    rfl
  case h_3 rest _ =>
    obtain rfl := Option.some.inj h
    rw [hparts, countP_splitSlashes, List.countP_cons_of_neg (by decide)]
  case h_4 => contradiction

theorem parse?_fragment : parse? ("#" ++ fragment) =
    if hasLooseTilde fragment.toList then none else tokensOfBody (Percent.decode fragment).toList := by
  have hl : ("#" ++ fragment).toList = '#' :: fragment.toList := by simp
  have ht : hasLooseTilde ('#' :: fragment.toList) = hasLooseTilde fragment.toList := by simp [hasLooseTilde]
  simp only [parse?, parse, hl, ht, List.head?_cons, beq_self_eq_true, Bool.or_true, Bool.not_true, Bool.false_eq_true,
    if_false, if_true, List.tail_cons, String.ofList_toList]
  split
  case isTrue => rfl
  case isFalse => split <;> rename_i h <;> rw [h] <;> rfl

-- A pointer behind a hash sign comes back exactly if there is nothing to decode in it, and it is not the one of the
-- single empty token.
theorem map_compile_parse?_fragment : (parse? ("#" ++ compile tokens)).map compile = some (compile tokens) ↔
    Percent.decode (compile tokens) = compile tokens ∧ compile tokens ≠ "/" := by
  rw [parse?_fragment, toList_compile, hasLooseTilde_bodyOf, if_neg Bool.false_ne_true]
  constructor
  case mp =>
    intro h
    obtain ⟨tokens', ht, hc⟩ := Option.map_eq_some_iff.mp h
    obtain rfl := compile_injective hc
    refine ⟨Percent.decode_eq_or_lt.resolve_right fun hlt => ?_, fun hs => ?_⟩
    · rw [← countP_bodyOf ht, toList_compile] at hlt
      exact Nat.lt_irrefl _ hlt
    · obtain rfl : tokens' = [""] := compile_injective hs
      exact tokensOfBody_ne ht
  case mpr =>
    rintro ⟨hd, hn⟩
    rw [hd, toList_compile, tokensOfBody_bodyOf fun h => hn (by rw [h]; rfl), Option.map_some]

end Pointer

end FormModel
