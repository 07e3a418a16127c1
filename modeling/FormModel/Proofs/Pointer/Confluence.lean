import FormModel.Proofs.Pointer.NormalForm
import Mathlib.Logic.Relation

/-!
The order in which repetitions are noted.  A pointer can be folded along two entries only if the place of one is an
ancestor of the place of the other.  Where that is never so, every fold is forced, and the entries may come in any order.
-/

namespace FormModel

namespace Pointer

open Relation

variable {arrays : ArrayMap} {refs refs' : RecursionMap} {source source' target p p₁ p₂ p' : String} {n : Nat}

-- Whether no place that is folded is an ancestor of another one.
def Apart (refs : RecursionMap) : Prop :=
  ∀ e ∈ refs, ∀ e' ∈ refs, isAncestor e.2 e.1 true = true → isAncestor e'.2 e'.1 true = true → e ≠ e' →
    isAncestor e.1 e'.1 false = false

instance : Decidable (Apart refs) := inferInstanceAs (Decidable (∀ e ∈ refs, ∀ e' ∈ refs, _))

-- One fold, along any entry that leads to a strict ancestor.
def FoldsTo (refs : RecursionMap) (arrays : ArrayMap) (p p' : String) : Prop :=
  ∃ e ∈ refs, isAncestor e.2 e.1 true = true ∧ isAncestor e.1 p false = true ∧
    toGeneric? arrays (withFront e.1 e.2 p) = some p'

section Order

theorem reflTransGen_of_subset (hs : refs ⊆ refs') (h : ReflTransGen (FoldsTo refs arrays) p p') :
    ReflTransGen (FoldsTo refs' arrays) p p' := by
  refine ReflTransGen.mono (fun p p' => ?_) _ _ h
  rintro ⟨e, hm, hf⟩
  exact ⟨e, hs hm, hf⟩

theorem Folded.not_foldsTo (h : Folded refs p) : ¬FoldsTo refs arrays p p' := by
  rintro ⟨e, hm, ht, hp, _⟩
  exact absurd hp (by simp [h _ hm ht])

-- Two entries along which a pointer can be folded are one, so there is nothing to choose.
theorem rightUnique_foldsTo (h : Apart refs) : Relator.RightUnique (FoldsTo refs arrays) := by
  rintro p p₁ p₂ ⟨e₁, hm₁, ht₁, hp₁, hg₁⟩ ⟨e₂, hm₂, ht₂, hp₂, hg₂⟩
  by_cases he : e₁ = e₂
  case pos => exact Option.some.inj (hg₁.symm.trans (he ▸ hg₂))
  case neg =>
    rcases isAncestor_or hp₁ hp₂ with hp | hp
    case inl => exact absurd hp (by simp [h _ hm₁ _ hm₂ ht₁ ht₂ he])
    case inr => exact absurd hp (by simp [h _ hm₂ _ hm₁ ht₂ ht₁ (Ne.symm he)])

theorem FoldsAt.reflTransGen (h : FoldsAt arrays source target n p p') (hm : (source, target) ∈ refs)
    (ht : isAncestor target source true = true) : ReflTransGen (FoldsTo refs arrays) p p' := by
  induction h
  case stop => exact .refl
  case fold hp hg _ hi => exact .head ⟨_, hm, ht, hp, hg⟩ hi

theorem FoldsOnce.reflTransGen (h : FoldsOnce arrays refs n p p') : ReflTransGen (FoldsTo refs arrays) p p' := by
  induction h
  case nil => exact .refl
  case skip hi => exact reflTransGen_of_subset (List.subset_cons_self ..) hi
  case entry ht hat _ hi =>
    exact (hat.reflTransGen List.mem_cons_self ht).trans (reflTransGen_of_subset (List.subset_cons_self ..) hi)

theorem Folds.reflTransGen (h : Folds refs arrays p p') : ReflTransGen (FoldsTo refs arrays) p p' := by
  induction h
  case last h => exact h.reflTransGen
  case again h _ hi => exact h.reflTransGen.trans hi

-- Where every fold is forced, all ways to go on until nothing is left to fold lead to one pointer.
theorem eq_of_folded (h : Apart refs) (h₁ : ReflTransGen (FoldsTo refs arrays) p p₁) (hf₁ : Folded refs p₁)
    (h₂ : ReflTransGen (FoldsTo refs arrays) p p₂) (hf₂ : Folded refs p₂) : p₁ = p₂ := by
  rcases ReflTransGen.total_of_right_unique (rightUnique_foldsTo h) h₁ h₂ with h | h
  case inl =>
    rcases h.cases_head with he | ⟨_, hstep, _⟩
    · exact he
    · exact (hf₁.not_foldsTo hstep).elim
  case inr =>
    rcases h.cases_head with he | ⟨_, hstep, _⟩
    · exact he.symm
    · exact (hf₂.not_foldsTo hstep).elim

theorem Folds.eq_of_perm (ho : refs.Perm refs') (h : Apart refs) (h₁ : Folds refs arrays p p₁) (h₂ : Folds refs' arrays p p₂) :
    p₁ = p₂ := by
  have hfolded : Folded refs p₂ := fun e hm => h₂.folded e (ho.subset hm)
  exact eq_of_folded h h₁.reflTransGen h₁.folded (reflTransGen_of_subset ho.symm.subset h₂.reflTransGen) hfolded

end Order

end Pointer

-- Entries whose places are not below one another fold a pointer to the same in any order.
theorem fold?_of_perm (arrays : ArrayMap) {refs refs' : RecursionMap} (ho : refs.Perm refs') (h : Pointer.Apart refs)
    (a : Address) : a.fold? refs arrays = a.fold? refs' arrays := by
  rw [Address.fold?, Address.fold?]
  cases ha : a.parse?
  case none => simp [Address.toGeneric?, ha]
  case some tokens =>
    have hw : Pointer.Written (Pointer.compile (Pointer.genericTokens arrays [] tokens)) := ⟨_, rfl⟩
    obtain ⟨p₁, h₁, ho₁, _⟩ := Pointer.exists_folds_foldPasses refs arrays hw
    obtain ⟨p₂, h₂, ho₂, _⟩ := Pointer.exists_folds_foldPasses refs' arrays hw
    rw [Address.toGeneric?, ha, Option.map_some, Option.bind_some, Option.bind_some, ho₁, ho₂, h₁.eq_of_perm ho h h₂]

theorem fold?_of_perm_nested : nestedRefs.Perm nestedRefs.reverse ∧ Pointer.Apart nestedRefs ∧
    (Address.text "/list/3/list/4/pair/2/pair/0").fold? nestedRefs.reverse nestedArrays = some "/pair/0" := by
  have ho : nestedRefs.Perm nestedRefs.reverse := (List.reverse_perm _).symm
  have ha : Pointer.Apart nestedRefs := by decide
  have hf : (Address.text "/list/3/list/4/pair/2/pair/0").fold? nestedRefs nestedArrays = some "/pair/0" := by decide +kernel
  exact ⟨ho, ha, fold?_of_perm nestedArrays ho ha _ ▸ hf⟩

-- Of two places one below the other, it depends on their order along which of them a pointer is folded.
example : (Address.text "/a/b/c").fold? [("/a", ""), ("/a/b", "/a")] [] = some "/b/c" ∧
    (Address.text "/a/b/c").fold? [("/a/b", "/a"), ("/a", "")] [] = some "/c" := by
  decide

end FormModel
