import FormModel.Proofs.Dict
import Mathlib.Algebra.Order.BigOperators.Group.List
import Mathlib.Algebra.Order.Group.Nat
import Mathlib.Algebra.GroupWithZero.Nat

/-!
Counting calls.  A recursion in which every call makes finitely many others, and none of them goes on for ever, takes finitely
many calls; what a call has with as many levels as its calls have and one more, it has with as many levels as it takes calls.
Where too few levels are allowed nothing comes out, and what comes out with some levels comes out with more of them.
-/

namespace FormModel

-- How many calls a call takes: its own, and those that are taken by the calls it makes.
inductive Takes {α : Type} (calls : α → List α) : α → Nat → Prop where
  | intro {a : α} {counts : List Nat} (h : List.Forall₂ (Takes calls) (calls a) counts) : Takes calls a (counts.sum + 1)

variable {α β : Type} {calls : α → List α} {a : α} {n : Nat} {R : α → β → Prop} {xs : List α}

theorem exists_forall₂ (h : ∀ x ∈ xs, ∃ y, R x y) : ∃ ys, List.Forall₂ R xs ys := by
  induction xs
  case nil => exact ⟨[], .nil⟩
  case cons x xs hi =>
    have ⟨⟨y, hy⟩, h⟩ := List.forall_mem_cons.mp h
    have ⟨ys, hys⟩ := hi h
    exact ⟨y :: ys, .cons hy hys⟩

theorem exists_takes (h : Acc (fun b a => b ∈ calls a) a) : ∃ n, Takes calls a n := by
  induction h
  case intro a _ hi =>
    have ⟨counts, hc⟩ := exists_forall₂ hi
    exact ⟨counts.sum + 1, .intro hc⟩

-- Going from calls to the call that makes them takes a level, and there are no more levels than calls.
theorem Takes.holds {P : Nat → α → Prop} (hadd : ∀ n extra a, P n a → P (n + extra) a)
    (hcalls : ∀ n a, (∀ b ∈ calls a, P n b) → P (n + 1) a) (h : Takes calls a n) : P n a := by
  induction n using Nat.strongRecOn generalizing a
  case ind n hi =>
    obtain @⟨_, counts, hcounts⟩ := h
    refine hcalls _ _ fun b hb => ?_
    obtain ⟨count, hc, hb⟩ := exists_mem_of_forall₂ hcounts.flip hb
    have hle : count ≤ counts.sum := List.le_sum_of_mem hc
    obtain ⟨extra, he⟩ := Nat.exists_eq_add_of_le hle
    exact he ▸ hadd _ _ _ (hi count (Nat.lt_succ_of_le hle) hb)

section Keeps

variable {x y : Option α} {f g : α → Option β}

-- Whether what comes out in one way comes out in another one too.
def Keeps (x y : Option α) : Prop := ∀ a, x = some a → y = some a

theorem Keeps.refl : Keeps x x := fun _ => id

theorem Keeps.bind (hx : Keeps x y) (hf : ∀ a, Keeps (f a) (g a)) : Keeps (x >>= f) (y >>= g) := fun b h => by
  obtain ⟨a, ha, hb⟩ := Option.bind_eq_some_iff.mp h
  exact Option.bind_eq_some_iff.mpr ⟨a, hx a ha, hf a b hb⟩

theorem Keeps.map {f : α → β} (hx : Keeps x y) : Keeps (x.map f) (y.map f) := fun b h => by
  obtain ⟨a, ha, hb⟩ := Option.map_eq_some_iff.mp h
  exact Option.map_eq_some_iff.mpr ⟨a, hx a ha, hb⟩

theorem Keeps.mapM (hf : ∀ a, Keeps (f a) (g a)) : Keeps (xs.mapM f) (xs.mapM g) := by
  induction xs
  case nil => exact .refl
  case cons x xs hi =>
    rw [List.mapM_cons, List.mapM_cons]
    exact (hf x).bind fun _ => hi.bind fun _ => .refl

end Keeps

end FormModel
