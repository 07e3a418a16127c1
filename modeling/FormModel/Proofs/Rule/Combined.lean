import FormModel.Rule

/-!
Rules put together.  Members of a combination are only asked whether they are kept, and a combination is
broken in one mode exactly if it is kept in the other.
-/

namespace FormModel

namespace Rule

variable {r own : Rule} {members : List Rule} {rules : List (Option Rule)} {x : Json} {mode : Mode}
  {valid : Bool} {name : String} {parts : List Violations}

theorem isValid_eq : r.isValid x = (r.judge x .require).isNone := by
  rw [isValid, check, if_neg nofun]

theorem isNone_combined : (combined valid mode name parts).isNone = (valid != (mode == .forbid)) := by
  unfold combined
  split <;> simp_all

theorem judge_allOf : (allOf members).judge x mode =
    combined (verdicts members x .require).isEmpty mode "allOf" (verdicts members x .require) := rfl

theorem judge_anyOf : (anyOf members).judge x mode =
    combined ((verdicts members x .require).length < members.length) mode "anyOf" (verdicts members x .require) := rfl

theorem judge_oneOf : (oneOf members).judge x mode =
    combined (members.length - (verdicts members x .require).length == 1) mode "oneOf"
      (verdicts members x .require ++ verdicts members x .forbid) := rfl

theorem judge_not : (not r).judge x mode = ifPresent x ((r.judge x mode.invert).map fun errors =>
    Violations.merge [errors, Violations.single "not" (.bool true)]) := rfl

theorem length_verdicts : (verdicts members x .require).length = members.countP fun r => !r.isValid x := by
  induction members
  case nil => rfl
  case cons r members hi =>
    rw [verdicts, List.countP_cons, isValid_eq]
    split <;> simp_all

theorem isEmpty_verdicts : (verdicts members x .require).isEmpty = members.all (·.isValid x) := by
  rw [Bool.eq_iff_iff, List.isEmpty_iff_length_eq_zero, length_verdicts, List.countP_eq_zero]
  simp

-- As many members are kept as are not broken.
theorem length_sub_length_verdicts :
    members.length - (verdicts members x .require).length = members.countP (·.isValid x) := by
  rw [length_verdicts, List.length_eq_countP_add_countP (·.isValid x)]
  simp

theorem isValid_allOf : (allOf members).isValid x = members.all (·.isValid x) := by
  rw [isValid_eq, judge_allOf, isNone_combined, isEmpty_verdicts]
  exact Bool.bne_false _

theorem isValid_anyOf : (anyOf members).isValid x = members.any (·.isValid x) := by
  rw [isValid_eq, judge_anyOf, isNone_combined, Bool.eq_iff_iff, List.any_eq_true, ← List.countP_pos_iff,
    ← length_sub_length_verdicts, Nat.sub_pos_iff_lt]
  exact (iff_of_eq (congrArg (· = true) (Bool.bne_false _))).trans decide_eq_true_iff

theorem isValid_oneOf : (oneOf members).isValid x = (members.countP (·.isValid x) == 1) := by
  rw [isValid_eq, judge_oneOf, isNone_combined, length_sub_length_verdicts]
  exact Bool.bne_false _

-- Whether a rule is kept in one mode exactly if it is broken in the other.  Rules for values of one type are
-- not: they pass all other values in both modes.
def Opposed (r : Rule) : Prop := ∀ x, (r.judge x .forbid).isNone = !r.isValid x

theorem opposed_allOf : Opposed (allOf members) := fun x => by
  rw [isValid_allOf, judge_allOf, isNone_combined, isEmpty_verdicts]
  exact Bool.bne_true _

theorem isValid_not (h : Opposed r) : (not r).isValid x = (x.isEmpty || !r.isValid x) := by
  rw [isValid_eq, judge_not, ifPresent, ← h x, Mode.invert]
  split <;> simp_all

section Present

variable {f : List Rule → Rule}

theorem mem_present : own ∈ rules.filterMap id ↔ some own ∈ rules := by
  simp [List.mem_filterMap]

-- A combination of the rules that there are is none if there are none.
theorem present_eq_none :
    (if (rules.filterMap id).isEmpty then none else some (f (rules.filterMap id))) = none ↔ ∀ r ∈ rules, r = none := by
  simp [List.filterMap_eq_nil_iff]

theorem eq_of_present (h : (if (rules.filterMap id).isEmpty then none else some (f (rules.filterMap id))) = some r) :
    r = f (rules.filterMap id) := by
  split at h
  case isTrue => contradiction
  case isFalse => exact (Option.some.inj h).symm

end Present

theorem all?_eq_none : all? rules = none ↔ ∀ r ∈ rules, r = none := present_eq_none

theorem any?_eq_none : any? rules = none ↔ ∀ r ∈ rules, r = none := present_eq_none

theorem one?_eq_none : one? rules = none ↔ ∀ r ∈ rules, r = none := present_eq_none

theorem all?_congr {rules' : List (Option Rule)} (h : rules.filterMap id = rules'.filterMap id) :
    all? rules = all? rules' := by
  simp only [all?, h]

theorem opposed_of_all? (h : all? rules = some r) : Opposed r := eq_of_present h ▸ opposed_allOf

-- Whether a value keeps a rule, if there is one.
def Keeps (rule : Option Rule) (x : Json) : Prop := ∀ r, rule = some r → r.isValid x = true

theorem keeps_some : Keeps (some r) x ↔ r.isValid x = true := by
  simp [Keeps]

theorem keeps_all? : Keeps (all? rules) x ↔ ∀ rule ∈ rules, Keeps rule x := by
  constructor
  case mp =>
    rintro h _ hr own rfl
    cases ha : all? rules
    case none => exact absurd (all?_eq_none.mp ha _ hr) nofun
    case some r =>
      have hv := h r ha
      rw [eq_of_present ha, isValid_allOf, List.all_eq_true] at hv
      exact hv own (mem_present.mpr hr)
  case mpr =>
    intro h r ha
    rw [eq_of_present ha, isValid_allOf, List.all_eq_true]
    exact fun own ho => h _ (mem_present.mp ho) own rfl

theorem keeps_any? : Keeps (any? rules) x ↔
    (∀ rule ∈ rules, rule = none) ∨ ∃ rule ∈ rules, rule.any (·.isValid x) = true := by
  rw [← any?_eq_none]
  cases ha : any? rules
  case none => exact iff_of_true nofun (.inl rfl)
  case some r =>
    have hx : (∃ own ∈ rules.filterMap id, own.isValid x = true) ↔ ∃ rule ∈ rules, rule.any (·.isValid x) = true := by
      simp only [mem_present, Option.any_eq_true]
      exact ⟨fun ⟨own, ho, hv⟩ => ⟨_, ho, own, rfl, hv⟩, fun ⟨_, ho, own, he, hv⟩ => ⟨own, he ▸ ho, hv⟩⟩
    rw [keeps_some, eq_of_present ha, isValid_anyOf, List.any_eq_true, hx]
    simp

theorem keeps_one? : Keeps (one? rules) x ↔
    (∀ rule ∈ rules, rule = none) ∨ rules.countP (·.any (·.isValid x)) = 1 := by
  rw [← one?_eq_none]
  cases ha : one? rules
  case none => exact iff_of_true nofun (.inl rfl)
  case some r =>
    have hc : (rules.filterMap id).countP (·.isValid x) = rules.countP (·.any (·.isValid x)) := by
      rw [List.countP_filterMap]
      refine List.countP_congr fun own _ => ?_
      cases own <;> rfl
    rw [keeps_some, eq_of_present ha, isValid_oneOf, hc]
    simp

theorem keeps_not {rule : Option Rule} (h : ∀ r, rule = some r → Opposed r) : Keeps (rule.map .not) x ↔
    ∀ r, rule = some r → x.isEmpty = true ∨ r.isValid x = false := by
  cases rule
  case none => exact iff_of_true nofun nofun
  case some r => simp [Keeps, isValid_not (h r rfl)]

end Rule

end FormModel
