import FormModel.Proofs.Pointer.Text
import Mathlib.Data.List.Infix

/-!
Ancestors, told by the text of pointers.  A text that goes on with a slash after another one is taken to be below it.
Among written pointers this is what the tokens say: no slash is left in a written token, so a front of the text that
ends before a slash is a front of the tokens.
-/

namespace FormModel

namespace Pointer

variable {tokens tokens' : Tokens} {cs : List Char} {source source' p p' : String} {strict : Bool}

section Texts

theorem isAncestor_self : isAncestor p p false = true := if_pos rfl

theorem isAncestor_strict (h : isAncestor p p' false = true) (hn : p ≠ p') : isAncestor p p' true = true := by
  rw [isAncestor, if_neg hn] at h ⊢
  exact h

theorem isAncestor_iff : isAncestor p p' strict = true ↔ isAncestor p p' false = true ∧ (strict = true → p ≠ p') := by
  rw [isAncestor, isAncestor]
  by_cases he : p = p' <;> simp [he]

theorem not_isAncestor_empty : isAncestor p "" true = false := by
  rw [isAncestor]
  split
  case isTrue => rfl
  case isFalse => simp

theorem eq_of_isAncestor_empty (h : isAncestor p "" false = true) : p = "" := by
  by_contra hn
  rw [isAncestor, if_neg hn] at h
  simp at h

-- With a slash behind both, what is an ancestor is a front of the text, the text itself included.
theorem isAncestor_prefix_iff : isAncestor p p' false = true ↔ p.toList ++ ['/'] <+: p'.toList ++ ['/'] := by
  rw [List.prefix_concat_iff, List.append_left_inj, String.toList_inj, isAncestor]
  by_cases he : p = p' <;> simp [he]

theorem isAncestor_or (h : isAncestor source p false = true) (h' : isAncestor source' p false = true) :
    isAncestor source source' false = true ∨ isAncestor source' source false = true := by
  rw [isAncestor_prefix_iff] at *
  rcases List.prefix_or_prefix_of_prefix h h' with hp | hp
  case inl => exact .inl hp
  case inr => exact .inr (isAncestor_prefix_iff.mpr hp)

end Texts

section Tokens

-- What ends before a slash of a written pointer has been written from the tokens up to there.
theorem exists_append_of_prefix (h : cs ++ ['/'] <+: bodyOf tokens) :
    ∃ front rest, tokens = front ++ rest ∧ rest ≠ [] ∧ cs = bodyOf front := by
  induction tokens generalizing cs
  case nil => simp [bodyOf] at h
  case cons token tokens hi =>
    have hb : bodyOf (token :: tokens) = '/' :: (escapeChars token.toList ++ bodyOf tokens) := rfl
    rw [hb] at h
    cases cs
    case nil => exact ⟨[], token :: tokens, rfl, List.cons_ne_nil _ _, rfl⟩
    case cons c cs =>
      rw [List.cons_append, List.cons_prefix_cons] at h
      obtain ⟨rfl, h⟩ := h
      have hesc : escapeChars token.toList <+: cs := by
        rcases List.prefix_or_prefix_of_prefix h (List.prefix_append ..) with hp | hp
        case inl => exact absurd (hp.subset (by simp)) slash_not_mem_escapeChars
        case inr =>
          refine (List.prefix_concat_iff.mp hp).resolve_left fun he => ?_
          exact absurd (he ▸ List.mem_append_right cs (List.mem_singleton.mpr rfl)) slash_not_mem_escapeChars
      obtain ⟨cs, rfl⟩ := hesc
      rw [List.append_assoc, List.prefix_append_right_inj] at h
      obtain ⟨front, rest, rfl, hn, rfl⟩ := hi h
      exact ⟨token :: front, rest, rfl, hn, rfl⟩

theorem exists_append_of_isAncestor_strict (h : isAncestor p (compile tokens) true = true) :
    ∃ front rest, tokens = front ++ rest ∧ rest ≠ [] ∧ p = compile front := by
  rw [isAncestor] at h
  split at h
  case isTrue => contradiction
  case isFalse =>
    rw [toList_compile, List.isPrefixOf_iff_prefix] at h
    obtain ⟨front, rest, ht, hn, hp⟩ := exists_append_of_prefix h
    exact ⟨front, rest, ht, hn, String.toList_injective (by rw [hp, toList_compile])⟩

theorem exists_append_of_isAncestor (h : isAncestor p (compile tokens) false = true) :
    ∃ front rest, tokens = front ++ rest ∧ p = compile front := by
  by_cases he : p = compile tokens
  case pos => exact ⟨tokens, [], (List.append_nil _).symm, he⟩
  case neg =>
    obtain ⟨front, rest, ht, _, hp⟩ := exists_append_of_isAncestor_strict (isAncestor_strict h he)
    exact ⟨front, rest, ht, hp⟩

theorem prefix_of_isAncestor_compile (h : isAncestor (compile tokens) (compile tokens') false = true) : tokens <+: tokens' := by
  obtain ⟨front, rest, rfl, hf⟩ := exists_append_of_isAncestor h
  exact compile_injective hf ▸ List.prefix_append front rest

-- A written token begins with a slash, so no token ends in the middle of what is written for one.
theorem isAncestor_compile_append : isAncestor (compile tokens) (compile (tokens ++ tokens')) false = true := by
  rw [isAncestor_prefix_iff, toList_compile, toList_compile]
  cases tokens'
  case nil => simp
  case cons token tokens' => simp [bodyOf]

-- One written pointer is an ancestor of another exactly if its tokens are the first tokens of the other, whatever the
-- tokens are.
theorem isAncestor_compile_iff : isAncestor (compile tokens) (compile tokens') strict = true ↔
    tokens <+: tokens' ∧ (strict = true → tokens ≠ tokens') := by
  have hne : compile tokens ≠ compile tokens' ↔ tokens ≠ tokens' :=
    not_congr ⟨compile_injective, congrArg compile⟩
  rw [isAncestor_iff, hne, and_congr_left_iff]
  refine fun _ => ⟨prefix_of_isAncestor_compile, ?_⟩
  rintro ⟨rest, rfl⟩
  exact isAncestor_compile_append

-- The empty token stands between two slashes, and a slash in a token is no end of it.
example : isAncestor (compile [""]) (compile ["", "a/b"]) true = true ∧
    isAncestor (compile [""]) (compile ["a"]) false = false ∧
    isAncestor (compile ["", "a"]) (compile ["", "a/b"]) false = false := by with_unfolding_all decide

end Tokens

end Pointer

end FormModel
