/-!
Counting down.  A process that goes on only with names it has not seen yet, out of a fixed list, comes to
an end.
-/

namespace FormModel

variable {seen seen' : String → Bool} {names : List String} {name : String}

-- How many of some names have not been seen.
def unseen (seen : String → Bool) (names : List String) : Nat := names.countP fun name => !seen name

theorem unseen_le_length : unseen seen names ≤ names.length := List.countP_le_length

theorem unseen_le (h : ∀ name, seen name → seen' name) : unseen seen' names ≤ unseen seen names :=
  List.countP_mono_left fun name _ hn => by
    rw [Bool.not_eq_true'] at hn ⊢
    exact Bool.eq_false_iff.mpr fun hs => by simp [h name hs] at hn

theorem unseen_lt (h : ∀ name, seen name → seen' name) (hm : name ∈ names) (hs : seen name = false)
    (hs' : seen' name) : unseen seen' names < unseen seen names := by
  induction names
  case nil => contradiction
  case cons other names hi =>
    have hle : unseen seen' names ≤ unseen seen names := unseen_le h
    simp only [unseen, List.countP_cons] at hi hle ⊢
    cases hm
    case head =>
      simp only [hs, hs', Bool.not_true, Bool.not_false, Bool.false_eq_true, if_true, if_false]
      omega
    case tail hm =>
      have hlt := hi hm
      cases hn : seen other
      case true => simp [h other hn]; omega
      case false => cases seen' other <;> simp <;> omega

end FormModel
