import FormModel.Proofs.Pointer.Ancestor
import FormModel.Proofs.Pointer.Canonical
import FormModel.Proofs.Pointer.Path
import Mathlib.Data.List.Infix

/-!
Ancestors among the places of a value, and folding at a place that is itself noted as a repetition: it leads to
the ancestor that has been noted, and stays there.
-/

namespace FormModel

namespace Pointer

variable {source target p p' : String} {refs : RecursionMap} {fuel : Nat}

-- Ancestors among the places of a value are the places that are gone through on the way.
theorem prefix_of_isAncestor {j u v : Json} {p q : Path} (hp : j.follow? p = some u) (hq : j.follow? q = some v)
    (h : isAncestor (ofPath p) (ofPath q) false = true) : p <+: q := by
  obtain ⟨q', ⟨r, rfl⟩, ht⟩ := List.prefix_map_iff.mp (prefix_of_isAncestor_compile h)
  rw [Json.follow?_append] at hq
  have ⟨w, hw, _⟩ := Option.bind_eq_some_iff.mp hq
  exact Json.eq_of_follow? hp hw ht ▸ List.prefix_append q' r

section Fold

-- Where none of the places that are folded is an ancestor, nothing is folded.
theorem foldPass_self {arrays : ArrayMap}
    (h : ∀ e ∈ refs, isAncestor e.2 e.1 true = true → isAncestor e.1 p false = false) :
    foldPass arrays refs p = some p := by
  induction refs
  case nil => rfl
  case cons e refs hi =>
    obtain ⟨source, target⟩ := e
    have ⟨he, h⟩ := List.forall_mem_cons.mp h
    rw [foldPass]
    split
    case isTrue hs => rw [foldSource, if_neg (by simp [he hs]), Option.bind_some, hi h]
    case isFalse => exact hi h

theorem foldSource_self (ht : (parse? target).map compile = some p') (hn : isAncestor source p' false = false) :
    foldSource [] source target (fuel + 1) source = some p' := by
  have hg : toGeneric? [] target = some p' := by simpa only [toGeneric?, genericTokens_nil] using ht
  have hf : target ++ String.ofList (source.toList.drop source.length) = target := by
    simp [List.drop_eq_nil_of_le (Nat.le_of_eq String.length_toList)]
  rw [foldSource, if_pos isAncestor_self]
  dsimp only
  rw [hf, hg, Option.bind_some]
  cases fuel
  case zero => rfl
  case succ => rw [foldSource, if_neg (by simp [hn])]

-- The pass over all entries comes to the one of the place, and from then on nothing is folded.
theorem foldPass_of_get? (hg : Dict.get? refs p = some target) (hs : isAncestor target p true = true)
    (ht : (parse? target).map compile = some p') (hp : ∀ e ∈ refs, e.1 ≠ p → isAncestor e.1 p false = false)
    (hn : ∀ e ∈ refs, isAncestor e.2 e.1 true = true → isAncestor e.1 p' false = false) :
    foldPass [] refs p = some p' := by
  induction refs
  case nil => contradiction
  case cons e refs hi =>
    obtain ⟨source, target'⟩ := e
    have ⟨hpe, hp⟩ := List.forall_mem_cons.mp hp
    have ⟨hne, hn⟩ := List.forall_mem_cons.mp hn
    rw [Dict.get?] at hg
    rw [foldPass]
    by_cases he : source = p
    case pos =>
      subst he
      rw [if_pos rfl] at hg
      obtain rfl := Option.some.inj hg
      rw [if_pos hs, foldSource_self ht (hne hs), Option.bind_some, foldPass_self hn]
    case neg =>
      rw [if_neg he] at hg
      split
      case isTrue => rw [foldSource, if_neg (by simp [hpe he]), Option.bind_some, hi hg hp hn]
      case isFalse => exact hi hg hp hn

theorem fold?_of_get? (hc : Canonical p) (hg : Dict.get? refs p = some target) (hs : isAncestor target p true = true)
    (ht : (parse? target).map compile = some p') (hp : ∀ e ∈ refs, e.1 ≠ p → isAncestor e.1 p false = false)
    (hn : ∀ e ∈ refs, isAncestor e.2 e.1 true = true → isAncestor e.1 p' false = false) :
    fold? refs [] p = some p' := by
  rw [fold?, toGeneric?_nil hc, Option.bind_some, foldPasses, foldPass_of_get? hg hs ht hp hn]
  dsimp only
  split
  case isTrue he => rw [he]
  case isFalse =>
    cases p.length
    case zero => rfl
    case succ => simp [foldPasses, foldPass_self hn]

end Fold

end Pointer

end FormModel
