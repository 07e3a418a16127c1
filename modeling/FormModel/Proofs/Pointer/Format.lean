import FormModel.FormatTable
import FormModel.Proofs.Pattern.Spans
import FormModel.Proofs.Pointer.Text

/-!
The format of pointers.  A text that is no fragment conforms to it exactly if it looks like a pointer, and exactly if it is
read as one.
-/

namespace FormModel

namespace Pointer

open Pattern

variable {cs : List Char} {c : Char} {i j m n : Nat} {s : String}

-- What a token is written with: a character that is neither a slash nor a tilde, or a tilde before `0` or `1`.
def unitPattern : Pattern :=
  alt (chars (.compl (.union (.single '/') (.single '~'))))
    (alt (seq (chars (.single '~')) (chars (.single '0'))) (seq (chars (.single '~')) (chars (.single '1'))))

-- A slash and a token.
def tokenPattern : Pattern := seq (chars (.single '/')) (rep unitPattern 0 none true)

def pointerShape : Pattern :=
  seq (assertion .textStart) (seq (rep tokenPattern 0 none true) (assertion .textEnd))

theorem parse?_pointerPattern : Pattern.parse? FormatTable.pointerPattern = some pointerShape := by decide +kernel

theorem ofPattern_pointerPattern : FormatTable.ofPattern FormatTable.pointerPattern = .pattern pointerShape := by
  rw [FormatTable.ofPattern, parse?_pointerPattern]

section Characters

theorem drop_eq_cons_iff : cs.drop i = c :: cs.drop (i + 1) ↔ cs[i]? = some c := by
  constructor
  case mp =>
    intro h
    rw [← List.head?_drop, h, List.head?_cons]
  case mpr =>
    intro h
    obtain ⟨hi, rfl⟩ := List.getElem?_eq_some_iff.mp h
    exact List.drop_eq_getElem_cons hi

theorem contains_single {d : Char} : (CharSet.single c).contains d = true ↔ d = c := by
  rw [CharSet.single, CharSet.contains, Bool.and_eq_true, decide_eq_true_eq, decide_eq_true_eq]
  constructor
  case mp => exact fun h => Char.le_antisymm h.2 h.1
  case mpr =>
    rintro rfl
    exact ⟨Char.le_refl _, Char.le_refl _⟩

theorem spans_single : Spans cs.toArray (chars (.single c)) i j ↔ j = i + 1 ∧ cs.drop i = c :: cs.drop (i + 1) := by
  simp only [spans_chars, contains_single, drop_eq_cons_iff, List.getElem?_toArray, exists_eq_right]

end Characters

section Tokens

-- What is left behind a part of a token has a loose tilde if it had one before that part.
theorem hasLooseTilde_of_spans_unit (h : Spans cs.toArray unitPattern i j) :
    hasLooseTilde (cs.drop i) = hasLooseTilde (cs.drop j) := by
  rcases h with ⟨rfl, c, hc, hs⟩ | ⟨k, hk, h⟩ | ⟨k, hk, h⟩
  case inl =>
    have hne : c ≠ '~' := by
      rintro rfl
      exact absurd hs (by decide)
    rw [drop_eq_cons_iff.mpr (List.getElem?_toArray .. ▸ hc), hasLooseTilde_cons]
    simp [hne]
  all_goals
    obtain ⟨rfl, htilde⟩ := spans_single.mp hk
    obtain ⟨rfl, hdigit⟩ := spans_single.mp h
    rw [htilde, hdigit, hasLooseTilde_cons, hasLooseTilde_cons]
    simp

theorem hasLooseTilde_of_steps {R : Nat → Nat → Prop} (hr : ∀ i j, R i j → hasLooseTilde (cs.drop i) = hasLooseTilde (cs.drop j))
    (h : Steps R n i j) : hasLooseTilde (cs.drop i) = hasLooseTilde (cs.drop j) := by
  induction n generalizing i
  case zero => exact h ▸ rfl
  case succ n hn =>
    obtain ⟨k, hk, h⟩ := h
    exact (hr i k hk).trans (hn h)

theorem spans_token : Spans cs.toArray tokenPattern i j ↔
    cs.drop i = '/' :: cs.drop (i + 1) ∧ ∃ n, Steps (Spans cs.toArray unitPattern) n (i + 1) j := by
  have hrep : ∀ k, Spans cs.toArray (rep unitPattern 0 none true) k j ↔ ∃ n, Steps (Spans cs.toArray unitPattern) n k j :=
    fun k => by simp [spans_rep]
  rw [tokenPattern, spans_seq]
  simp only [hrep, spans_single]
  constructor
  case mp =>
    rintro ⟨_, ⟨rfl, hs⟩, h⟩
    exact ⟨hs, h⟩
  case mpr =>
    rintro ⟨hs, h⟩
    exact ⟨i + 1, ⟨rfl, hs⟩, h⟩

theorem spans_unit (h : cs.drop i = c :: cs.drop (i + 1)) (hs : c ≠ '/') (ht : c ≠ '~') :
    Spans cs.toArray unitPattern i (i + 1) := by
  refine .inl ⟨rfl, c, List.getElem?_toArray .. ▸ drop_eq_cons_iff.mp h, ?_⟩
  rw [CharSet.contains, CharSet.contains, Bool.not_eq_true', Bool.or_eq_false_iff]
  exact ⟨Bool.eq_false_iff.mpr (mt contains_single.mp hs), Bool.eq_false_iff.mpr (mt contains_single.mp ht)⟩

theorem spans_unit_escape (ht : cs.drop i = '~' :: cs.drop (i + 1)) (h : cs.drop (i + 1) = c :: cs.drop (i + 2))
    (hc : c = '0' ∨ c = '1') : Spans cs.toArray unitPattern i (i + 2) := by
  have ht := spans_single.mpr ⟨rfl, ht⟩
  rcases hc with rfl | rfl
  case inl => exact .inr (.inl ⟨i + 1, ht, spans_single.mpr ⟨rfl, h⟩⟩)
  case inr => exact .inr (.inr ⟨i + 1, ht, spans_single.mpr ⟨rfl, h⟩⟩)

theorem digit_of_tilde (h : hasLooseTilde ('~' :: cs.drop i) = false) :
    ∃ d, cs[i]? = some d ∧ (d = '0' ∨ d = '1') ∧ hasLooseTilde (cs.drop (i + 1)) = false := by
  rw [hasLooseTilde_cons, Bool.or_eq_false_iff, List.head?_drop] at h
  cases hg : cs[i]?
  case none => simp [hg] at h
  case some d =>
    rw [drop_eq_cons_iff.mpr hg, hasLooseTilde_cons, Bool.or_eq_false_iff] at h
    exact ⟨d, rfl, by simpa [hg, or_iff_not_imp_left] using h.1, h.2.2⟩

-- What has no loose tilde is the end of a token and then tokens.
theorem exists_steps (hi : i ≤ cs.length) (h : hasLooseTilde (cs.drop i) = false) : ∃ k m n,
    Steps (Spans cs.toArray unitPattern) m i k ∧ Steps (Spans cs.toArray tokenPattern) n k cs.length := by
  induction hd : cs.length - i using Nat.strongRecOn generalizing i
  case ind d hn =>
    cases hs : cs.drop i
    case nil =>
      obtain rfl : i = cs.length := Nat.le_antisymm hi (List.drop_eq_nil_iff.mp hs)
      exact ⟨_, 0, 0, rfl, rfl⟩
    case cons c rest =>
      have hget : cs[i]? = some c := by rw [← List.head?_drop, hs, List.head?_cons]
      have hlt : i < cs.length := (List.getElem?_eq_some_iff.mp hget).1
      have hc := drop_eq_cons_iff.mpr hget
      rw [hc] at h
      have hrest := (Bool.or_eq_false_iff.mp h).2
      by_cases hslash : c = '/'
      case pos =>
        obtain ⟨k, m, n, hm, hk⟩ := hn _ (by omega) hlt hrest rfl
        exact ⟨i, 0, n + 1, rfl, k, spans_token.mpr ⟨hslash ▸ hc, m, hm⟩, hk⟩
      case neg =>
        by_cases htilde : c = '~'
        case neg =>
          obtain ⟨k, m, n, hm, hk⟩ := hn _ (by omega) hlt hrest rfl
          exact ⟨k, m + 1, n, ⟨i + 1, spans_unit hc hslash htilde, hm⟩, hk⟩
        case pos =>
          -- The escape is one part of the token, so what is left begins behind the digit.
          obtain ⟨d, hg, hd, hloose⟩ := digit_of_tilde (htilde ▸ h)
          obtain ⟨k, m, n, hm, hk⟩ := hn _ (by omega) (List.getElem?_eq_some_iff.mp hg).1 hloose rfl
          exact ⟨k, m + 1, n, ⟨i + 2, spans_unit_escape (htilde ▸ hc) (drop_eq_cons_iff.mpr hg) hd, hm⟩, hk⟩

theorem steps_token : (∃ n, Steps (Spans cs.toArray tokenPattern) n 0 cs.length) ↔
    (∀ c ∈ cs.head?, c = '/') ∧ hasLooseTilde cs = false := by
  constructor
  case mp =>
    rintro ⟨n, h⟩
    have hloose : hasLooseTilde (cs.drop 0) = hasLooseTilde (cs.drop cs.length) := by
      refine hasLooseTilde_of_steps (fun i j hs => ?_) h
      obtain ⟨hc, m, hs⟩ := spans_token.mp hs
      rw [hc, hasLooseTilde_cons, ← hasLooseTilde_of_steps (fun _ _ => hasLooseTilde_of_spans_unit) hs]
      rfl
    rw [List.drop_length] at hloose
    refine ⟨fun c hc => ?_, hloose⟩
    cases n
    case zero => simp [List.eq_nil_of_length_eq_zero h] at hc
    case succ n =>
      obtain ⟨k, hs, _⟩ := h
      have hc' := (spans_token.mp hs).1
      rw [List.drop_zero] at hc'
      rw [hc'] at hc
      exact (Option.some.inj hc).symm
  case mpr =>
    rintro ⟨hc, h⟩
    cases cs
    case nil => exact ⟨0, rfl⟩
    case cons c cs =>
      obtain rfl := hc c rfl
      have hi : 1 ≤ ('/' :: cs).length := Nat.succ_le_succ (Nat.zero_le _)
      obtain ⟨k, m, n, hm, hn⟩ := exists_steps hi h
      exact ⟨n + 1, k, spans_token.mpr ⟨rfl, m, hm⟩, hn⟩

-- The pattern matches a text from its beginning to its end or not at all.
theorem occurs_pointerShape : pointerShape.Occurs cs.toArray ↔ (∀ c ∈ cs.head?, c = '/') ∧ hasLooseTilde cs = false := by
  rw [← steps_token]
  simp [Occurs, pointerShape, spans_seq, spans_rep, spans_assertion, Assertion.holds]

end Tokens

section Texts

theorem isPointer_iff (h : s.toList.head? ≠ some '#') :
    isPointer s = true ↔ (∀ c ∈ s.toList.head?, c = '/') ∧ hasLooseTilde s.toList = false := by
  rw [isPointer]
  generalize s.toList = cs at h
  split
  case h_1 => simp [hasLooseTilde]
  case h_2 => contradiction
  case h_3 => simp [hasLooseTilde]
  case h_4 => contradiction
  case h_5 _ hempty _ hslash _ =>
    refine iff_of_false Bool.false_ne_true fun hp => ?_
    rcases cs with _ | ⟨c, rest⟩
    · contradiction
    · exact hslash rest (congrArg (· :: rest) (hp.1 c rfl))

theorem exists_parse_iff (h : s.toList.head? ≠ some '#') :
    (∃ tokens, parse s = .ok tokens) ↔ (∀ c ∈ s.toList.head?, c = '/') ∧ hasLooseTilde s.toList = false := by
  simp only [parse]
  generalize s.toList = cs at h
  cases cs
  case nil => simp [hasLooseTilde, tokensOfBody]
  case cons c rest =>
    have hc : c ≠ '#' := fun hc => h (congrArg some hc)
    by_cases hs : c = '/'
    case neg => simp [hc, hs]
    case pos =>
      subst hs
      obtain ⟨tokens, ht⟩ := (@exists_tokensOfBody_iff ('/' :: rest)).mpr fun c hc => (Option.some.inj hc).symm
      cases hl : hasLooseTilde ('/' :: rest) <;> simp [ht]

end Texts

-- The format, the look of a text and the reader agree on every text that is no fragment.
theorem accepts_pointer_iff (h : s.toList.head? ≠ some '#') :
    (∃ p, Dict.get? FormatTable.standard "json-pointer" = some (.pattern p) ∧
      Pattern.parse? FormatTable.pointerPattern = some p ∧ (p.Occurs s.toList.toArray ↔ isPointer s = true)) ∧
    FormatTable.accepts? FormatTable.standard "json-pointer" s = some (isPointer s) ∧
    (isPointer s = true ↔ ∃ tokens, parse s = .ok tokens) := by
  have ht : Dict.get? FormatTable.standard "json-pointer" = some (.pattern pointerShape) := by
    rw [← ofPattern_pointerPattern]
    rfl
  have hp : pointerShape.Occurs s.toList.toArray ↔ isPointer s = true := by
    rw [occurs_pointerShape, isPointer_iff h]
  refine ⟨⟨pointerShape, ht, parse?_pointerPattern, hp⟩, ?_, (isPointer_iff h).trans (exists_parse_iff h).symm⟩
  rw [FormatTable.accepts?, ht, Option.map_some, FormatTest.accepts, Option.some.injEq, Bool.eq_iff_iff, isMatch_iff rfl, hp]

-- Escapes, an empty token and a line break at the end, and a tilde that escapes nothing.
theorem accepts_pointer_iff_escaped :
    FormatTable.accepts? FormatTable.standard "json-pointer" "/a~1b//~0\n" = some true ∧
    (∃ tokens, parse "/a~1b//~0\n" = .ok tokens) ∧
    FormatTable.accepts? FormatTable.standard "json-pointer" "/a~2" = some false ∧
    ¬∃ tokens, parse "/a~2" = .ok tokens := by
  have ⟨_, ha, hp⟩ := accepts_pointer_iff (s := "/a~1b//~0\n") (by decide)
  have ⟨_, ha', hp'⟩ := accepts_pointer_iff (s := "/a~2") (by decide)
  have ht : isPointer "/a~1b//~0\n" = true := by decide
  have hf : isPointer "/a~2" = false := by decide
  exact ⟨ht ▸ ha, hp.mp ht, hf ▸ ha', fun h => Bool.noConfusion (hf.symm.trans (hp'.mpr h))⟩

end Pointer

end FormModel
