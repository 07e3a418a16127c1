import FormModel.Proofs.Rule.Leaf
import FormModel.Rule.Schema

/-!
The two senses of a rule.  A value that breaks a rule where it has to be kept does not fail it as well where it has to
be broken: what judges by itself speaks up in one of the two senses only, and `not` swaps the senses of its member.
A value may pass in both senses, as values of other types mostly do.
-/

namespace FormModel

namespace Rule

variable {r : Rule} {k : Keyword} {rules : List (Option Rule)} {x details : Json} {valid : Bool} {name : String}
  {parts : List Violations} {verdict : Mode → Option Violations}

-- What is said in the two senses is not a record both times.
def OneSided (verdict : Mode → Option Violations) : Prop := verdict .require = none ∨ verdict .forbid = none

theorem oneSided_outcome : OneSided fun mode => outcome valid mode name details := by
  cases valid
  case false => exact .inr rfl
  case true => exact .inl rfl

theorem oneSided_combined : OneSided fun mode => combined valid mode name parts := by
  cases valid
  case false => exact .inr rfl
  case true => exact .inl rfl

theorem OneSided.ifPresent (h : OneSided verdict) : OneSided fun mode => ifPresent x (verdict mode) := by
  cases hx : x.isEmpty
  case true => exact .inl (by simp [Rule.ifPresent, hx])
  case false => simpa [Rule.ifPresent, hx] using h

-- A rule for values of one kind says nothing of the others.
theorem oneSided_bind {α : Type} {reading : Option α} {f : α → Mode → Option Violations} (h : ∀ a, OneSided (f a)) :
    OneSided fun mode => reading.bind (f · mode) := by
  cases reading
  case none => exact .inl rfl
  case some a => exact h a

theorem OneSided.invert {f : Violations → Violations} (h : OneSided verdict) :
    OneSided fun mode => (verdict mode.invert).map f := by
  rcases h with h | h
  case inl => exact .inr (by simp [Mode.invert, h])
  case inr => exact .inl (by simp [Mode.invert, h])

theorem oneSided_of_keyword? (h : r.keyword? = some k) : OneSided (r.judge x) := by
  show OneSided fun mode => r.judge x mode
  cases r <;> simp only [judge]
  case required => exact .inr rfl
  case requiredTrue => exact oneSided_outcome
  case type | enum | const | contains => exact oneSided_outcome.ifPresent
  case size | pattern | format | bounded | multipleOf | uniqueItems | atLeast | atMost | email =>
    exact (oneSided_bind fun _ => oneSided_outcome).ifPresent
  case dependencies => exact oneSided_bind fun _ => oneSided_outcome
  case anyOf | oneOf | allOf | not | custom => contradiction

-- The members of a combination are asked in one sense, whatever the mode, and the verdict on them is the mode's.
theorem oneSided_of_present {f : List Rule → Rule}
    (h : (if (rules.filterMap id).isEmpty then none else some (f (rules.filterMap id))) = some r)
    (hf : f = allOf ∨ f = anyOf ∨ f = oneOf) : OneSided (r.judge x) := by
  rw [eq_of_present h]
  rcases hf with rfl | rfl | rfl <;> exact oneSided_combined

theorem oneSided_not (h : OneSided (r.judge x)) : OneSided ((not r).judge x) := by
  show OneSided fun mode => (not r).judge x mode
  simp only [judge_not]
  exact h.invert.ifPresent

-- Rules as they are made: of a limit, of a keyword with its parameters, of a bag, of a schema, and of rules that are
-- made so.
inductive Built : Rule → Prop where
  | size (l : SizeLimit) (bound : Nat) : Built (.size l bound)
  | atLeast (bound : Float) : Built (.atLeast bound)
  | atMost (bound : Float) : Built (.atMost bound)
  | keyword {formats : FormatTable} {k : Keyword} {params : List Json} {r : Rule} (h : k.rule? formats params = some r) :
    Built r
  | bag {formats : FormatTable} {bag : RuleBag} {r : Rule} (h : bag.rule? formats = some r) : Built r
  | schema {formats : FormatTable} {schema : Json} {r : Rule} (h : schemaRule? formats schema = some r) : Built r
  | allOf {rules : List (Option Rule)} {r : Rule} (hm : ∀ own, some own ∈ rules → Built own) (h : all? rules = some r) :
    Built r
  | anyOf {rules : List (Option Rule)} {r : Rule} (hm : ∀ own, some own ∈ rules → Built own) (h : any? rules = some r) :
    Built r
  | oneOf {rules : List (Option Rule)} {r : Rule} (hm : ∀ own, some own ∈ rules → Built own) (h : one? rules = some r) :
    Built r
  | not {r : Rule} (h : Built r) : Built (.not r)

theorem oneSided_schemaRule? {formats : FormatTable} {schema : Json} (h : schemaRule? formats schema = some r) :
    OneSided (r.judge x) := by
  cases schema <;> rw [schemaRule?] at h
  case obj => exact oneSided_of_present h (.inl rfl)
  all_goals contradiction

theorem Built.oneSided (h : Built r) (x : Json) : OneSided (r.judge x) := by
  induction h
  case size l _ => cases l <;> exact oneSided_of_keyword? rfl
  case atLeast | atMost => exact oneSided_of_keyword? rfl
  case keyword h => exact oneSided_of_keyword? (keyword?_of_rule? h)
  case bag h => exact oneSided_of_present h (.inl rfl)
  case schema h => exact oneSided_schemaRule? h
  case allOf h _ => exact oneSided_of_present h (.inl rfl)
  case anyOf h _ => exact oneSided_of_present h (.inr (.inl rfl))
  case oneOf h _ => exact oneSided_of_present h (.inr (.inr rfl))
  case not hi => exact oneSided_not hi

-- A value passes every rule in one of the two senses at least.
theorem passes_in_one_sense (h : Built r) (x : Json) : r.check x .require = none ∨ r.check x .forbid = none :=
  h.oneSided x

-- Not exactly one of a keyword, a bag and a schema, of which `"a"` passes the first two.
def notOneLetter : Option Rule :=
  (one? [Keyword.const.rule? [] ["a"], RuleBag.rule? [("type", ["string"])] [], schemaRule? [] (.obj [("const", "b")])]).map
    .not

theorem built_notOneLetter (h : notOneLetter = some r) : Built r := by
  have ⟨_, hone, h⟩ := Option.map_eq_some_iff.mp h
  refine h ▸ .not (.oneOf (fun own hm => ?_) hone)
  simp only [List.mem_cons, List.not_mem_nil, or_false] at hm
  rcases hm with hm | hm | hm
  · exact .keyword hm.symm
  · exact .bag hm.symm
  · exact .schema hm.symm

theorem passes_in_one_sense_notOneLetter : ∃ r, notOneLetter = some r ∧ Built r ∧ r.check "a" .forbid ≠ none ∧
    r.check "a" .require = none := by
  have hforbid : (notOneLetter.any fun r => (r.check "a" .forbid).isSome) = true := by decide
  obtain ⟨r, hr, hforbid⟩ := (Option.any_eq_true ..).mp hforbid
  have hbroken := Option.isSome_iff_ne_none.mp hforbid
  exact ⟨r, hr, built_notOneLetter hr, hbroken, (passes_in_one_sense (built_notOneLetter hr) "a").resolve_right hbroken⟩

end Rule

end FormModel
