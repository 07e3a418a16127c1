import FormModel.Pointer.Generic
import FormModel.Pointer.Lookup
import FormModel.Proofs.Pointer.Path
import FormModel.Proofs.Pointer.Text

/-!
Pointers in the one form in which tokens are written.  Reading such a pointer and writing it again gives
it back, a step below it is a token more, and folding stays within them.
-/

namespace FormModel

namespace Pointer

-- Whether a pointer is written in the way in which tokens are written.
def Canonical (pointer : String) : Prop := (parse? pointer).map compile = some pointer

variable {p p' source target key : String} {tokens : Tokens} {arrays : ArrayMap} {refs : RecursionMap}
  {fuel i : Nat}

theorem canonical_compile (h : tokens ≠ [""]) : Canonical (compile tokens) := by
  rw [Canonical, parse?_compile h, Option.map_some]

theorem Canonical.exists_tokens (h : Canonical p) : ∃ tokens, tokens ≠ [""] ∧ p = compile tokens := by
  have ⟨tokens, hp, hc⟩ := Option.map_eq_some_iff.mp h
  exact ⟨tokens, ne_of_parse? hp, hc.symm⟩

theorem canonical_empty : Canonical "" := canonical_compile (show [] ≠ [""] by simp)

theorem canonical_of_map_compile (h : (parse? p).map compile = some p') : Canonical p' := by
  have ⟨_, hp, hc⟩ := Option.map_eq_some_iff.mp h
  exact hc ▸ canonical_compile (ne_of_parse? hp)

theorem concat_ne (hk : key ≠ "" ∨ compile tokens ≠ "") : tokens ++ [key] ≠ [""] := by
  intro he
  have ⟨ht, he⟩ := List.append_eq_singleton_iff.mp he |>.resolve_right (by simp)
  exact hk.elim (· (List.cons.inj he).1) (· (ht ▸ rfl))

theorem canonical_child (h : Canonical p) (hk : key ≠ "" ∨ p ≠ "") : Canonical (child p key) := by
  obtain ⟨tokens, _, rfl⟩ := h.exists_tokens
  exact compile_concat ▸ canonical_compile (concat_ne hk)

theorem child_ne_empty : child p key ≠ "" := by
  intro h
  have h := congrArg String.toList h
  simp [child] at h

-- Locations written in one piece.
theorem append_eq_child (key : String) {segment : String} (h : "/" ++ escape key = segment) : p ++ segment = child p key := by
  rw [← h, child, String.append_assoc]

theorem append_eq_child_child (outer : String) {segment : String} (h : "/" ++ escape outer ++ "/" = segment) :
    p ++ segment ++ escape key = child (child p outer) key := by
  simp only [← h, child, String.append_assoc]

theorem genericTokens_nil {before : Tokens} : genericTokens [] before tokens = tokens := by
  induction tokens generalizing before
  case nil => rfl
  case cons token tokens hi => rw [genericTokens, hi]; rfl

theorem canonical_of_toGeneric? (h : toGeneric? [] p = some p') : Canonical p' := by
  refine canonical_of_map_compile (p := p) ?_
  simpa only [toGeneric?, genericTokens_nil] using h

theorem toGeneric?_nil (h : Canonical p) : toGeneric? [] p = some p := by
  simp only [toGeneric?, genericTokens_nil]
  exact h

theorem canonical_foldSource (hp : Canonical p) (h : foldSource [] source target fuel p = some p') :
    Canonical p' := by
  induction fuel generalizing p
  case zero => exact Option.some.inj h ▸ hp
  case succ fuel hi =>
    rw [foldSource] at h
    split at h
    case isTrue =>
      have ⟨_, hg, h⟩ := Option.bind_eq_some_iff.mp h
      exact hi (canonical_of_toGeneric? hg) h
    case isFalse => exact Option.some.inj h ▸ hp

theorem canonical_foldPass (hp : Canonical p) (h : foldPass [] refs p = some p') : Canonical p' := by
  induction refs generalizing p
  case nil => exact Option.some.inj h ▸ hp
  case cons e refs hi =>
    rw [foldPass] at h
    split at h
    case isTrue =>
      have ⟨_, hf, h⟩ := Option.bind_eq_some_iff.mp h
      exact hi (canonical_foldSource hp hf) h
    case isFalse => exact hi hp h

theorem canonical_foldPasses (hp : Canonical p) (h : foldPasses refs [] fuel p = some p') : Canonical p' := by
  induction fuel generalizing p
  case zero => exact Option.some.inj h ▸ hp
  case succ fuel hi =>
    rw [foldPasses] at h
    split at h
    case h_1 => contradiction
    case h_2 folded hf =>
      split at h
      case isTrue => exact Option.some.inj h ▸ hp
      case isFalse => exact hi (canonical_foldPass hp hf) h

theorem canonical_fold? (h : fold? refs [] p = some p') : Canonical p' := by
  have ⟨_, hg, h⟩ := Option.bind_eq_some_iff.mp h
  exact canonical_foldPasses (canonical_of_toGeneric? hg) h

end Pointer

namespace Json

variable {root v : Json} {tokens more : Tokens}

theorem at?_compile (h : tokens ≠ [""]) : root.at? (Pointer.compile tokens) = root.getTokens? tokens := by
  have hp : (Address.text (Pointer.compile tokens)).parse? = some tokens := Pointer.parse?_compile h
  rw [at?, get?, hp, Option.bind_some]

theorem getTokens?_append : root.getTokens? (tokens ++ more) = (root.getTokens? tokens).bind (getTokens? · more) := by
  induction tokens generalizing root
  case nil => rfl
  case cons token tokens hi =>
    rw [List.cons_append, getTokens?, getTokens?, Option.bind_assoc]
    exact congrArg _ (funext fun _ => hi)

theorem at?_slash : root.at? "/" = some root := rfl

theorem at?_ofPath {p : Path} (hp : ∀ slot ∈ p, slot.Bounded) (hn : Pointer.ofPath p ≠ "/") (h : root.follow? p = some v) :
    root.at? (Pointer.ofPath p) = some v := by
  rw [Pointer.ofPath, at?_compile fun ht => hn (by rw [Pointer.ofPath, ht]; rfl), getTokens?_path_of_bounded hp h]

theorem at?_child {p key : String} (h : Pointer.Canonical p) (hk : key ≠ "" ∨ p ≠ "") :
    root.at? (Pointer.child p key) = (root.at? p).bind (step? · key) := by
  obtain ⟨tokens, ht, rfl⟩ := h.exists_tokens
  rw [← Pointer.compile_concat, at?_compile (Pointer.concat_ne hk), at?_compile ht, getTokens?_append]
  exact congrArg _ (funext fun u => by simp [getTokens?])

end Json

end FormModel
