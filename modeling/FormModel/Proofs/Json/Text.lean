import FormModel.Json.Printer
import FormModel.Proofs.Json.Numeral
import FormModel.Proofs.Json.Parts

/-!
The text of a value on one line.  It shows where it ends, so it is the text of one value only, the order of members
and the way numbers are written included.
-/

namespace FormModel

namespace Json

open Reader

variable {α : Type} {f : α → List Char} {a b : α} {as bs : List α} {cs r s acc : List Char} {c close : Char}
  {i j : Json} {name : String}

-- A text that can be told from what comes behind it, and from the texts of all others.
def Cut (f : α → List Char) (a : α) : Prop :=
  ∀ b r s, Closing r → Closing s → f a ++ r = f b ++ s → a = b ∧ r = s

section Strings

variable {d n : Nat}

theorem eq_ofNat (h : c.toNat = n) : c = Char.ofNat n := by rw [← h, Char.ofNat_toNat]

theorem hexDigit?_digitChar (h : d < 16) : hexDigit? (Nat.digitChar d) = some d := by
  interval_cases d <;> rfl

theorem hex4?_control (h : n < 32) : hex4? '0' '0' (Nat.digitChar (n / 16)) (Nat.digitChar (n % 16)) = some n := by
  rw [hex4?, hexDigit?_digitChar (d := n / 16) (by omega), hexDigit?_digitChar (d := n % 16) (by omega)]
  simp [show hexDigit? '0' = some 0 from rfl]
  omega

-- A character is read back, however it is written.
theorem stringTail_escapeChar : stringTail acc (escapeChar c ++ cs) = stringTail (c :: acc) cs := by
  rw [escapeChar]
  split_ifs
  case pos h => subst h; rfl
  case pos h => subst h; rfl
  case pos h => subst h; rfl
  case pos h => subst h; rfl
  case pos h => subst h; rfl
  case pos h => rw [eq_ofNat h]; rfl
  case pos h => rw [eq_ofNat h]; rfl
  case pos h =>
    simp only [List.cons_append, List.nil_append]
    rw [stringTail.eq_def]
    simp only [hex4?_control h]
    rw [if_pos (by omega), Char.ofNat_toNat]
  case neg =>
    rw [List.singleton_append, stringTail.eq_def]
    split <;> simp_all

theorem stringTail_append :
    stringTail acc (cs.flatMap escapeChar ++ '"' :: r) = some (String.ofList (acc.reverse ++ cs), r) := by
  induction cs generalizing acc
  case nil => simp [stringTail]
  case cons c cs hi => simp [stringTail_escapeChar, hi]

-- The text of a string after its first quote.
def quoted (name : String) : List Char := name.toList.flatMap escapeChar ++ ['"']

theorem toList_quote : (quote name).toList = '"' :: quoted name := by simp [quote, quoted]

theorem stringTail_quoted : stringTail [] (quoted name ++ r) = some (name, r) := by
  simp [quoted, stringTail_append]

theorem quoted_append_inj {name' : String} (h : quoted name ++ r = quoted name' ++ s) : name = name' ∧ r = s := by
  have hread : stringTail [] (quoted name ++ r) = some (name, r) := stringTail_quoted
  rw [h, stringTail_quoted, Option.some.injEq, Prod.mk.injEq] at hread
  exact ⟨hread.1.symm, hread.2.symm⟩

end Strings

section Entries

-- The text of entries with commas between them, up to and with the bracket that closes them.
def entriesText (f : α → List Char) (as : List α) (close : Char) : List Char :=
  (as.flatMap fun a => ',' :: f a).tail ++ [close]

theorem intercalate_comma {texts : List (List Char)} :
    [','].intercalate texts = (texts.flatMap fun t => ',' :: t).tail := by
  induction texts
  case nil => rfl
  case cons t texts hi =>
    cases texts
    case nil => simp
    case cons t' texts =>
      rw [List.intercalate_cons_cons, hi]
      simp

theorem closing_tail (hc : close = ']' ∨ close = '\x7d') :
    Closing ((as.flatMap fun a => ',' :: f a) ++ close :: r) := by
  cases as
  case nil => exact closing_cons (.inr hc)
  case cons => exact closing_cons (.inl rfl)

theorem tail_inj (hc : close = ']' ∨ close = '\x7d') (hf : ∀ a ∈ as, Cut f a)
    (h : (as.flatMap fun a => ',' :: f a) ++ close :: r = (bs.flatMap fun a => ',' :: f a) ++ close :: s) :
    as = bs ∧ r = s := by
  have hne : ',' ≠ close := by rintro rfl; simp at hc
  induction as generalizing bs
  case nil =>
    cases bs
    case nil => simpa using h
    case cons => simp [hne.symm] at h
  case cons a as hi =>
    cases bs
    case nil => simp [hne] at h
    case cons b bs =>
      have ⟨ha, has⟩ := List.forall_mem_cons.mp hf
      simp only [List.flatMap_cons, List.cons_append, List.append_assoc, List.cons.injEq, true_and] at h
      obtain ⟨rfl, htail⟩ := ha b _ _ (closing_tail hc) (closing_tail hc) h
      obtain ⟨rfl, rfl⟩ := hi has htail
      exact ⟨rfl, rfl⟩

theorem entriesText_append_inj (hc : close = ']' ∨ close = '\x7d') (hf : ∀ a ∈ as, Cut f a)
    (hne : ∀ a, (f a).head? ≠ some close) (hnil : ∀ a, f a ≠ [])
    (h : entriesText f as close ++ r = entriesText f bs close ++ s) : as = bs ∧ r = s := by
  refine tail_inj hc hf ?_
  have hhead {a : α} {x y : List Char} : close :: x ≠ f a ++ y := by
    intro h
    have := congrArg List.head? h
    rw [List.head?_cons, List.head?_append_of_ne_nil _ (hnil a)] at this
    exact hne a this.symm
  cases as <;> cases bs
  case nil.nil => simpa [entriesText] using h
  case nil.cons => simp [entriesText, hhead] at h
  case cons.nil => simp [entriesText, hhead.symm] at h
  case cons.cons => simpa [entriesText] using h

end Entries

-- The characters of a value's text, and of a member's.
def chars (j : Json) : List Char := j.compact.toList

def memberChars (e : String × Json) : List Char := '"' :: (quoted e.1 ++ ':' :: e.2.chars)

@[simp]
theorem chars_null : chars .null = ['n', 'u', 'l', 'l'] := rfl

theorem chars_bool {b : Bool} : chars (.bool b) = if b then ['t', 'r', 'u', 'e'] else ['f', 'a', 'l', 's', 'e'] := by
  cases b <;> rfl

theorem chars_num {x : Number} : chars (.num x) = x.text.toList := rfl

theorem chars_str : chars (.str name) = '"' :: quoted name := toList_quote

theorem compactItems_eq {items : List Json} : compactItems items = items.map compact := by
  induction items
  case nil => rfl
  case cons j items hi => rw [compactItems, hi, List.map_cons]

theorem compactMembers_eq {members : List (String × Json)} :
    compactMembers members = members.map fun e => quote e.1 ++ ":" ++ e.2.compact := by
  induction members
  case nil => rfl
  case cons e members hi => rw [compactMembers, hi, List.map_cons]

theorem chars_arr {items : List Json} : chars (.arr items) = '[' :: entriesText chars items ']' := by
  simp [chars, compact, compactItems_eq, intercalate_comma, entriesText, List.flatMap_map]

theorem chars_obj {members : List (String × Json)} :
    chars (.obj members) = '\x7b' :: entriesText memberChars members '\x7d' := by
  simp [chars, compact, compactMembers_eq, intercalate_comma, entriesText, List.flatMap_map, memberChars, toList_quote]

-- The kind of the value that starts with a character; the empty text for blanks and for what stands between values.
def kindOf : Char → String
  | 'n' => "null"
  | 't' | 'f' => "boolean"
  | '"' => "string"
  | '[' => "array"
  | '\x7b' => "object"
  | ' ' | '\n' | '\t' | '\r' | ',' | ':' | ']' | '\x7d' => ""
  | _ => "number"

theorem exists_text (x : Number) : ∃ c rest, x.text.toList = c :: rest ∧ kindOf c = "number" := by
  rw [Number.toList_text]
  cases x.isNegative
  case true => exact ⟨'-', x.numeral.chars, rfl, rfl⟩
  case false =>
    obtain ⟨d, hd, rest, hc⟩ := (Number.wellFormed_numeral (x := x)).exists_chars
    refine ⟨Nat.digitChar d, rest, hc, ?_⟩
    interval_cases d <;> rfl

theorem exists_chars (j : Json) : ∃ c rest, j.chars = c :: rest ∧ kindOf c = j.kind := by
  cases j
  case null => exact ⟨_, _, rfl, rfl⟩
  case bool b => cases b <;> exact ⟨_, _, rfl, rfl⟩
  case num x => exact exists_text x
  case str => exact ⟨_, _, chars_str, rfl⟩
  case arr => exact ⟨_, _, chars_arr, rfl⟩
  case obj => exact ⟨_, _, chars_obj, rfl⟩

theorem kind_ne : j.kind ≠ "" := by cases j <;> simp [kind]

theorem head?_chars_ne (hc : kindOf c = "") : j.chars.head? ≠ some c := by
  obtain ⟨d, rest, hd, hk⟩ := exists_chars j
  rw [hd, List.head?_cons, Ne, Option.some.injEq]
  rintro rfl
  exact kind_ne (hk.symm.trans hc)

theorem chars_ne_nil : j.chars ≠ [] := by
  obtain ⟨c, rest, hc, -⟩ := exists_chars j
  rw [hc]
  exact List.cons_ne_nil _ _

-- Values with texts that start alike are of one kind.
theorem kind_eq_of_chars_append (h : i.chars ++ r = j.chars ++ s) : i.kind = j.kind := by
  obtain ⟨c, rest, hc, hk⟩ := exists_chars i
  obtain ⟨d, rest', hd, hk'⟩ := exists_chars j
  rw [hc, hd] at h
  rw [← hk, ← hk', (List.cons.inj h).1]

theorem cut_memberChars {e : String × Json} (he : Cut chars e.2) : Cut memberChars e := by
  rintro ⟨name', j⟩ r s hr hs h
  obtain ⟨name, i⟩ := e
  simp only [memberChars, List.cons_append, List.append_assoc, List.cons.injEq, true_and] at h
  obtain ⟨rfl, htail⟩ := quoted_append_inj h
  obtain ⟨rfl, rfl⟩ := he j r s hr hs (List.cons.inj htail).2
  exact ⟨rfl, rfl⟩

-- The text of a value shows where it ends and which value it is the text of.
theorem cut_chars (j : Json) : Cut chars j := by
  induction j using inductionInside
  case scalar i hi =>
    intro j r s hr hs h
    have hk := kind_eq_of_chars_append h
    cases i <;> cases j <;> simp [kind, isContainer] at hk hi
    case null.null => simpa using h
    case bool.bool b b' => cases b <;> cases b' <;> simp_all [chars_bool]
    case num.num =>
      obtain ⟨rfl, rfl⟩ := Number.text_append_inj hr hs h
      exact ⟨rfl, rfl⟩
    case str.str =>
      rw [chars_str, chars_str] at h
      obtain ⟨rfl, rfl⟩ := quoted_append_inj (List.cons.inj h).2
      exact ⟨rfl, rfl⟩
  case arr items hi =>
    intro j r s hr hs h
    have hk := kind_eq_of_chars_append h
    cases j <;> simp [kind] at hk
    case arr items' =>
      rw [chars_arr, chars_arr] at h
      obtain ⟨rfl, rfl⟩ := entriesText_append_inj (.inl rfl) hi (fun _ => head?_chars_ne rfl) (fun _ => chars_ne_nil)
        (List.cons.inj h).2
      exact ⟨rfl, rfl⟩
  case obj members hi =>
    intro j r s hr hs h
    have hk := kind_eq_of_chars_append h
    cases j <;> simp [kind] at hk
    case obj members' =>
      rw [chars_obj, chars_obj] at h
      obtain ⟨rfl, rfl⟩ := entriesText_append_inj (.inr rfl) (fun e he => cut_memberChars (hi e he))
        (fun _ => by simp [memberChars]) (fun _ => by simp [memberChars]) (List.cons.inj h).2
      exact ⟨rfl, rfl⟩

theorem compact_inj (h : i.compact = j.compact) : i = j :=
  (cut_chars i j [] [] (fun _ h => nomatch h) (fun _ h => nomatch h) (by rw [chars, chars, h])).1

end Json

end FormModel
