import FormModel.Proofs.Pointer.Fragment
import FormModel.Proofs.Pointer.ObjectPath
import FormModel.Template.Locate
import Mathlib.Data.List.Infix
import Mathlib.Data.List.TakeWhile

/-!
Fragments that look like pointers, and fragments that are read as pointers.  The look of a text is that of its
characters as they are, but what is read of a fragment is what it decodes to; so a first slash that is encoded is read
and not seen.  A path that begins with such a slash is followed as an object path, which never has the same tokens.
-/

namespace FormModel

namespace Percent

variable {bs : List UInt8} {a b high low : UInt8} {front cs : List Char} {s : String}

theorem flatMap_utf8EncodeChar_prefix_iff :
    front.flatMap String.utf8EncodeChar <+: cs.flatMap String.utf8EncodeChar ↔ front <+: cs := by
  refine ⟨fun h => ?_, fun h => List.IsPrefix.flatMap h _⟩
  induction front generalizing cs
  case nil => exact List.nil_prefix
  case cons c front hi =>
    rw [List.flatMap_cons] at h
    cases cs
    case nil => simp at h
    case cons d cs =>
      rw [List.flatMap_cons] at h
      obtain ⟨rest, he⟩ := h
      -- The first character is read off the bytes without a look at those behind it.
      have hdecode := congrArg (fun bytes : List UInt8 => bytes.toByteArray.utf8DecodeChar? 0) he
      simp only [List.append_assoc, List.toByteArray_append, ByteArray.utf8DecodeChar?_utf8EncodeChar_append] at hdecode
      obtain rfl := Option.some.inj hdecode
      rw [List.append_assoc, List.append_cancel_left_eq] at he
      exact List.cons_prefix_cons.mpr ⟨rfl, hi ⟨rest, he⟩⟩

theorem decoded_eq_slash_iff (ha : hexDigit? a = some high) (hb : hexDigit? b = some low) :
    high * 16 + low = 47 ↔ a = 50 ∧ (b = 70 ∨ b = 102) := by
  have hv := toNat_decoded ha hb
  have ha := hexDigit?_cases ha
  have hb := hexDigit?_cases hb
  simp only [← UInt8.toNat_inj, hv, UInt8.reduceToNat]
  omega

-- Of two digits, only the two ways to write fifteen with a two before them stand for a slash.
theorem prefix_decodeBytes_iff : [47] <+: decodeBytes bs ↔ [47] <+: bs ∨ [37, 50, 70] <+: bs ∨ [37, 50, 102] <+: bs := by
  fun_cases decodeBytes bs
  case case1 a b rest high low hb ha =>
    have hs := decoded_eq_slash_iff ha hb
    simp only [List.cons_prefix_cons, List.nil_prefix, and_true, eq_comm (a := (47 : UInt8)), hs]
    simp [eq_comm, and_or_left]
  case case2 a b rest hn =>
    have hno : ¬(a = 50 ∧ (b = 70 ∨ b = 102)) := by
      rintro ⟨rfl, rfl | rfl⟩ <;> exact hn _ _ rfl rfl
    simp only [List.cons_prefix_cons, List.nil_prefix, and_true, eq_comm (b := a), eq_comm (b := b)]
    simpa [and_or_left] using hno
  case case3 b rest hn =>
    have hno : ∀ c d, ¬[37, c, d] <+: b :: rest := by
      rintro c d ⟨rest', he⟩
      obtain ⟨rfl, rfl⟩ := List.cons.inj he
      exact hn c d rest' rfl rfl
    simp [hno]
  case case4 => simp

-- Whether a text begins with an encoded slash, and the bytes that it stands for are those of a text.
structure BeginsWithSlash (s : String) : Prop where
  encoded : ['%', '2', 'F'] <+: s.toList ∨ ['%', '2', 'f'] <+: s.toList
  decodes : Decodes s

theorem prefix_decode_iff : ['/'] <+: (decode s).toList ↔ ['/'] <+: s.toList ∨ BeginsWithSlash s := by
  have hbytes : ∀ front (s : String), front <+: s.toList ↔ front.flatMap String.utf8EncodeChar <+: s.toUTF8.toList :=
    fun _ _ => by rw [toList_toUTF8, flatMap_utf8EncodeChar_prefix_iff]
  by_cases hd : Decodes s
  case neg => simp [decode_of_not_decodes hd, show ¬BeginsWithSlash s from fun h => hd h.decodes]
  case pos =>
    have hs : BeginsWithSlash s ↔ ['%', '2', 'F'] <+: s.toList ∨ ['%', '2', 'f'] <+: s.toList := ⟨(·.encoded), (⟨·, hd⟩)⟩
    simp only [hs, hbytes, toUTF8_decode hd]
    exact prefix_decodeBytes_iff

theorem decodeBytes_eq_nil (h : decodeBytes bs = []) : bs = [] := by
  rw [decodeBytes.eq_def] at h
  split at h
  case h_1 => split at h <;> contradiction
  case h_2 => contradiction
  case h_3 => rfl

theorem decode_eq_empty (h : decode s = "") : s = "" := by
  by_cases hd : Decodes s
  case neg => exact (decode_of_not_decodes hd).symm.trans h
  case pos =>
    have hempty : "".toUTF8.toList = [] := by rw [toList_toUTF8]; rfl
    have hbytes := toUTF8_decode hd
    rw [h, hempty] at hbytes
    exact eq_of_toList_toUTF8 ((decodeBytes_eq_nil hbytes.symm).trans hempty.symm)

end Percent

namespace ObjectPath

variable {cs : List Char}

-- Whether a character goes on with the name before it.
def inName (c : Char) : Bool := !(c == '.' || c == '[')

theorem eq_of_not_inName {c : Char} (h : ¬inName c = true) : c = '.' ∨ c = '[' := by
  simpa [inName, or_iff_not_imp_left] using h

theorem exists_tokensFrom_eq (h : cs.takeWhile inName ≠ []) :
    ∃ tokens, tokensFrom [] cs = String.ofList (cs.takeWhile inName) :: tokens := by
  have hplain : '.' ∉ cs.takeWhile inName ∧ '[' ∉ cs.takeWhile inName :=
    ⟨fun hm => absurd (List.mem_takeWhile_imp hm) (by decide), fun hm => absurd (List.mem_takeWhile_imp hm) (by decide)⟩
  have hend : EndsName (cs.dropWhile inName) := by
    intro c hc
    have hn := List.head?_dropWhile_not inName cs
    rw [Option.mem_def.mp hc] at hn
    exact eq_of_not_inName (Bool.not_eq_true _ ▸ hn)
  refine ⟨tokensFrom [] (cs.dropWhile inName), ?_⟩
  conv => lhs; rw [← List.takeWhile_append_dropWhile (p := inName) (l := cs)]
  rw [tokensFrom_name hplain, tokensFrom_of_endsName hend, List.append_nil, flush, List.reverse_reverse, if_neg (by simpa using h),
    List.singleton_append]

end ObjectPath

namespace Percent

open ObjectPath (inName)

variable {bs : List UInt8} {cs : List Char} {s : String}

-- Whether a byte is one of a character that goes on with a name.
def inNameByte (b : UInt8) : Bool := !(b == 46 || b == 91)

theorem inNameByte_of_mem {c : Char} {b : UInt8} (h : inName c = true) (hb : b ∈ String.utf8EncodeChar c) :
    inNameByte b = true := by
  by_contra hn
  have hn : b.toNat = 46 ∨ b.toNat = 91 := by
    simpa [inNameByte, ← UInt8.toNat_inj, or_iff_not_imp_left] using hn
  have hc := toNat_eq_of_mem_utf8EncodeChar hb (by omega)
  rcases hn with hn | hn
  · obtain rfl : c = '.' := Char.toNat_inj.mp (hc.trans hn)
    contradiction
  · obtain rfl : c = '[' := Char.toNat_inj.mp (hc.trans hn)
    contradiction

theorem takeWhile_flatMap_utf8EncodeChar : (cs.flatMap String.utf8EncodeChar).takeWhile inNameByte =
    (cs.takeWhile inName).flatMap String.utf8EncodeChar := by
  induction cs
  case nil => rfl
  case cons c cs hi =>
    rw [List.flatMap_cons, List.takeWhile_cons]
    split
    case isTrue h => rw [List.takeWhile_append_of_pos fun _ => inNameByte_of_mem h, hi, List.flatMap_cons]
    case isFalse h =>
      rcases ObjectPath.eq_of_not_inName h with rfl | rfl <;> rfl

-- Digits go on with a name, so no name is cut by what is decoded.
theorem length_takeWhile_decodeBytes_le :
    ((decodeBytes bs).takeWhile inNameByte).length ≤ (bs.takeWhile inNameByte).length := by
  have hdigit : ∀ {b high}, hexDigit? b = some high → inNameByte b = true := by
    intro b high h
    have hc := hexDigit?_cases h
    simp only [inNameByte, Bool.not_eq_true', Bool.or_eq_false_iff, beq_eq_false_iff_ne, ne_eq, ← UInt8.toNat_inj,
      UInt8.reduceToNat]
    omega
  fun_induction decodeBytes bs
  case case1 a b rest high low hb ha hi =>
    have hp : inNameByte 37 = true := rfl
    simp only [List.takeWhile_cons, hp, hdigit ha, hdigit hb, if_true, List.length_cons]
    split <;> simp only [List.length_cons, List.length_nil] <;> omega
  case case2 a b rest _ hi | case3 b rest _ hi =>
    rw [List.takeWhile_cons, List.takeWhile_cons]
    split
    case isTrue => exact Nat.succ_le_succ hi
    case isFalse => exact Nat.le_refl _
  case case4 => exact Nat.le_refl _

-- The number of bytes of a text.
def utf8Length (cs : List Char) : Nat := (cs.flatMap String.utf8EncodeChar).length

theorem utf8Length_cons {c : Char} : utf8Length (c :: cs) = (String.utf8EncodeChar c).length + utf8Length cs := by
  rw [utf8Length, List.flatMap_cons, List.length_append, utf8Length]

theorem utf8Length_name_decode_le :
    utf8Length ((decode s).toList.takeWhile inName) ≤ utf8Length (s.toList.takeWhile inName) := by
  simp only [utf8Length, ← takeWhile_flatMap_utf8EncodeChar, ← toList_toUTF8]
  by_cases h : Decodes s
  case pos => exact toUTF8_decode h ▸ length_takeWhile_decodeBytes_le
  case neg => rw [decode_of_not_decodes h]

end Percent

namespace Pointer

open ObjectPath (inName)
open Percent (utf8Length utf8Length_cons)

variable {a b c x : Char} {cs part : List Char} {parts : List (List Char)} {token fragment : String} {tokens : Tokens}

section Tokens

theorem mem_replacePair (ha : c ≠ a) (hb : c ≠ b) (h : c ∈ cs) : c ∈ replacePair a b x cs := by
  fun_induction replacePair a b x cs
  case case1 y z rest hp hi =>
    obtain ⟨rfl, rfl⟩ := hp
    simp only [List.mem_cons, ha, hb, false_or] at h
    exact List.mem_cons_of_mem _ (hi h)
  case case2 y z rest _ hi =>
    rcases List.mem_cons.mp h with rfl | h
    · exact List.mem_cons_self
    · exact List.mem_cons_of_mem _ (hi h)
  case case3 => exact h

theorem utf8Length_replacePair_le (h : (String.utf8EncodeChar x).length ≤ (String.utf8EncodeChar a).length) :
    utf8Length (replacePair a b x cs) ≤ utf8Length cs := by
  fun_induction replacePair a b x cs
  case case1 y z rest hp hi =>
    obtain ⟨rfl, rfl⟩ := hp
    simp only [utf8Length_cons]
    omega
  case case2 y z rest _ hi => rw [utf8Length_cons, utf8Length_cons (c := y)]; omega
  case case3 => exact Nat.le_refl _

theorem utf8Length_unescapeChars_le : utf8Length (unescapeChars cs) ≤ utf8Length cs :=
  Nat.le_trans (utf8Length_replacePair_le (by decide)) (utf8Length_replacePair_le (by decide))

theorem inName_of_unescapeChars (h : ∀ c ∈ unescapeChars cs, inName c = true) : ∀ c ∈ cs, inName c = true := by
  intro c hm
  by_contra hn
  have hm : c ∈ unescapeChars cs := by
    rcases ObjectPath.eq_of_not_inName hn with rfl | rfl <;> exact mem_replacePair (by decide) (by decide) (mem_replacePair (by decide) (by decide) hm)
  exact hn (h c hm)

theorem prefix_of_splitSlashes (h : splitSlashes cs = part :: parts) : part <+: cs := by
  induction cs generalizing part parts
  case nil =>
    obtain ⟨rfl, _⟩ := List.cons.inj h
    exact List.prefix_rfl
  case cons c cs hi =>
    rw [splitSlashes] at h
    split at h
    case isTrue =>
      obtain ⟨rfl, _⟩ := List.cons.inj h
      exact List.nil_prefix
    case isFalse =>
      split at h
      case h_1 part' parts' hs =>
        obtain ⟨rfl, _⟩ := List.cons.inj h
        exact List.cons_prefix_cons.mpr ⟨rfl, hi hs⟩
      case h_2 hs => exact absurd hs splitSlashes_ne_nil

theorem exists_part_of_tokensOfBody (h : tokensOfBody cs = some (token :: tokens)) :
    ∃ part, '/' :: part <+: cs ∧ token = String.ofList (unescapeChars part) := by
  rw [tokensOfBody.eq_def] at h
  split at h
  case h_1 | h_2 => simp at h
  case h_3 rest _ =>
    obtain ⟨part, parts, hs, ht, _⟩ := List.map_eq_cons_iff.mp (Option.some.inj h)
    exact ⟨part, List.cons_prefix_cons.mpr ⟨rfl, prefix_of_splitSlashes hs⟩, ht.symm⟩
  case h_4 => contradiction

-- The first token of an object path goes on to the first dot or bracket, with the hash sign.  The first token of a
-- pointer does not go further, and without the slash before it, it is shorter.
theorem objectPath_ne_of_parse? (h : parse? ("#" ++ fragment) = some tokens) : ObjectPath.parse ("#" ++ fragment) ≠ tokens := by
  rintro rfl
  have hl : ("#" ++ fragment).toList = '#' :: fragment.toList := by simp
  obtain ⟨tokens, ht⟩ := @ObjectPath.exists_tokensFrom_eq ('#' :: fragment.toList) (by simp [inName])
  rw [List.takeWhile_cons_of_pos (by decide)] at ht
  rw [parse?_fragment, ObjectPath.parse, hl, ht] at h
  split at h
  case isTrue => contradiction
  case isFalse =>
    obtain ⟨part, hpart, he⟩ := exists_part_of_tokensOfBody h
    have he : '#' :: fragment.toList.takeWhile inName = unescapeChars part := String.ofList_injective he
    have hname : ∀ c ∈ '/' :: part, inName c = true := by
      refine List.forall_mem_cons.mpr ⟨by decide, inName_of_unescapeChars fun c hc => ?_⟩
      rw [← he] at hc
      rcases List.mem_cons.mp hc with rfl | hc
      · decide
      · exact List.mem_takeWhile_imp hc
    have hfront : '/' :: part <+: (Percent.decode fragment).toList.takeWhile inName := by
      obtain ⟨rest, hr⟩ := hpart
      rw [← hr, List.takeWhile_append_of_pos hname]
      exact List.prefix_append _ _
    have hlt : utf8Length (fragment.toList.takeWhile inName) < utf8Length (fragment.toList.takeWhile inName) := calc
      _ < utf8Length ('#' :: fragment.toList.takeWhile inName) := by rw [utf8Length_cons]; exact Nat.lt_add_of_pos_left (by decide)
      _ ≤ utf8Length part := he ▸ utf8Length_unescapeChars_le
      _ ≤ utf8Length ('/' :: part) := by rw [utf8Length_cons]; exact Nat.le_add_left _ _
      _ ≤ utf8Length ((Percent.decode fragment).toList.takeWhile inName) := (List.IsPrefix.flatMap hfront _).length_le
      _ ≤ utf8Length (fragment.toList.takeWhile inName) := Percent.utf8Length_name_decode_le
    exact Nat.lt_irrefl _ hlt

end Tokens

section Fragments

-- Whether a fragment begins with an encoded slash and is read nevertheless.
structure HidesSlash (fragment : String) : Prop extends Percent.BeginsWithSlash fragment where
  escaped : hasLooseTilde fragment.toList = false

theorem forall_mem_head?_iff {s : String} : (∀ c ∈ s.toList.head?, c = '/') ↔ s = "" ∨ ['/'] <+: s.toList := by
  rw [← String.toList_eq_nil_iff]
  cases s.toList
  case nil => simp
  case cons c cs => simp [List.cons_prefix_cons, eq_comm]

theorem isPointer_fragment_iff : isPointer ("#" ++ fragment) = true ↔
    (∀ c ∈ fragment.toList.head?, c = '/') ∧ hasLooseTilde fragment.toList = false := by
  have hl : ("#" ++ fragment).toList = '#' :: fragment.toList := by simp
  rw [isPointer, hl]
  rcases fragment.toList with _ | ⟨c, cs⟩
  · simp [hasLooseTilde]
  · by_cases hc : c = '/'
    · simp [hc, hasLooseTilde]
    · simp [hc]

theorem exists_parse_fragment_iff : (∃ tokens, parse ("#" ++ fragment) = .ok tokens) ↔
    (∀ c ∈ (Percent.decode fragment).toList.head?, c = '/') ∧ hasLooseTilde fragment.toList = false := by
  simp only [← parse?_eq_some, parse?_fragment, ← exists_tokensOfBody_iff]
  cases hasLooseTilde fragment.toList <;> simp

theorem exists_parse_iff_isPointer_or : (∃ tokens, parse ("#" ++ fragment) = .ok tokens) ↔
    isPointer ("#" ++ fragment) = true ∨ HidesSlash fragment := by
  have hempty : Percent.decode fragment = "" ↔ fragment = "" := ⟨Percent.decode_eq_empty, fun h => by rw [h]; with_unfolding_all rfl⟩
  have hhides : HidesSlash fragment ↔ Percent.BeginsWithSlash fragment ∧ hasLooseTilde fragment.toList = false :=
    ⟨fun h => ⟨h.toBeginsWithSlash, h.escaped⟩, fun h => ⟨h.1, h.2⟩⟩
  rw [exists_parse_fragment_iff, isPointer_fragment_iff, hhides, forall_mem_head?_iff, forall_mem_head?_iff, hempty,
    Percent.prefix_decode_iff, ← or_and_right, or_assoc]

-- What begins with a percent sign does not look like a pointer.
theorem HidesSlash.not_isPointer (h : HidesSlash fragment) : ¬isPointer ("#" ++ fragment) = true := by
  rw [isPointer_fragment_iff]
  rintro ⟨hc, _⟩
  have hp : fragment.toList.head? = some '%' := by
    rcases h.encoded with ⟨rest, hr⟩ | ⟨rest, hr⟩ <;> rw [← hr] <;> rfl
  exact absurd (hc '%' hp) (by decide)

-- Where a path does not look like a pointer, it is followed by other tokens than those of the pointer, if it is one.
theorem pathTokens?_fragment_iff : pathTokens? ("#" ++ fragment) false = parse? ("#" ++ fragment) ↔
    isPointer ("#" ++ fragment) = true := by
  refine ⟨fun h => by_contra fun hn => ?_, fun h => by rw [pathTokens?, if_pos h, if_neg Bool.false_ne_true]⟩
  rw [pathTokens?, if_neg hn, if_neg Bool.false_ne_true] at h
  exact objectPath_ne_of_parse? h.symm rfl

end Fragments

-- A fragment is read as a pointer if it looks like one or hides its first slash.  It looks like what it is read as, and
-- a path is followed as a pointer whenever it can be read as one, exactly if it does not hide its first slash.
theorem fragment_looks_as_read_iff :
    ((∃ tokens, parse ("#" ++ fragment) = .ok tokens) ↔ isPointer ("#" ++ fragment) = true ∨ HidesSlash fragment) ∧
    ((isPointer ("#" ++ fragment) = true ↔ ∃ tokens, parse ("#" ++ fragment) = .ok tokens) ↔ ¬HidesSlash fragment) ∧
    ((pathTokens? ("#" ++ fragment) false = parse? ("#" ++ fragment) ↔ ∃ tokens, parse ("#" ++ fragment) = .ok tokens) ↔
      ¬HidesSlash fragment) := by
  have hagree : (isPointer ("#" ++ fragment) = true ↔ ∃ tokens, parse ("#" ++ fragment) = .ok tokens) ↔ ¬HidesSlash fragment := by
    rw [exists_parse_iff_isPointer_or]
    refine ⟨fun h hh => hh.not_isPointer (h.mpr (.inr hh)), fun hn => ⟨.inl, (·.resolve_right hn)⟩⟩
  exact ⟨exists_parse_iff_isPointer_or, hagree, by rwa [pathTokens?_fragment_iff]⟩

-- The slash before the only token is encoded.  The token is read, but the path is followed as an object path.
theorem encodedSlash_is_read_and_not_seen :
    parse "#%2Fa" = .ok ["a"] ∧ isPointer "#%2Fa" = false ∧ pathTokens? "#%2Fa" false = some ["#%2Fa"] ∧
      ¬(isPointer "#%2Fa" = true ↔ ∃ tokens, parse "#%2Fa" = .ok tokens) := by
  have hp : parse "#%2Fa" = .ok ["a"] := by with_unfolding_all rfl
  have hn : isPointer "#%2Fa" = false := by decide
  have ht : pathTokens? "#%2Fa" false = some ["#%2Fa"] := by
    rw [pathTokens?, hn]
    with_unfolding_all rfl
  exact ⟨hp, hn, ht, fun h => Bool.noConfusion (hn.symm.trans (h.mpr ⟨_, hp⟩))⟩

end Pointer

end FormModel
