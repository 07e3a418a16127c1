import FormModel.Proofs.Rule.Combined
import FormModel.Rule.Keyword

/-!
Rules as tests of values.  A combination of rules tests a value by the tests of its members, and `allOf` does not
ask in what order they come.
-/

namespace FormModel

namespace Rule

variable {r : Rule} {rule rule' : Option Rule} {rules rules' : List (Option Rule)} {x given : Json}
  {l : Limit} {strict : Bool} {bound : Float}

-- The tests of the rules that there are.
def tests (rules : List (Option Rule)) : List (Json → Bool) := rules.filterMap (·.map isValid)

theorem tests_eq : tests rules = (rules.filterMap id).map isValid := by
  rw [tests, List.map_filterMap]
  rfl

theorem tests_congr (h : rules.map (Option.map isValid) = rules'.map (Option.map isValid)) : tests rules = tests rules' := by
  have hf := congrArg (List.filterMap id) h
  rwa [List.filterMap_map, List.filterMap_map] at hf

theorem mem_tests {test : Json → Bool} : test ∈ tests rules ↔ ∃ rule ∈ rules, rule.map isValid = some test :=
  List.mem_filterMap

-- A combination that goes by the tests of its members is a test made of them.
theorem map_isValid_present {f : List Rule → Rule} (combine : List (Json → Bool) → Json → Bool)
    (hf : ∀ members, (f members).isValid = combine (members.map isValid)) :
    (if (rules.filterMap id).isEmpty then none else some (f (rules.filterMap id))).map isValid =
      if (tests rules).isEmpty then none else some (combine (tests rules)) := by
  rw [tests_eq, List.isEmpty_map, ← hf]
  split <;> rfl

theorem map_isValid_all? : (all? rules).map isValid =
    if (tests rules).isEmpty then none else some fun x => (tests rules).all (· x) :=
  map_isValid_present (fun tests x => tests.all (· x)) fun members => funext fun x => by
    rw [isValid_allOf, List.all_map]
    rfl

theorem map_isValid_any? : (any? rules).map isValid =
    if (tests rules).isEmpty then none else some fun x => (tests rules).any (· x) :=
  map_isValid_present (fun tests x => tests.any (· x)) fun members => funext fun x => by
    rw [isValid_anyOf, List.any_map]
    rfl

theorem map_isValid_one? : (one? rules).map isValid =
    if (tests rules).isEmpty then none else some fun x => (tests rules).countP (· x) == 1 :=
  map_isValid_present (fun tests x => tests.countP (· x) == 1) fun members => funext fun x => by
    rw [isValid_oneOf, List.countP_map]
    rfl

theorem agree_all? (h : ∀ test, test ∈ tests rules ↔ test ∈ tests rules') :
    (all? rules).map isValid = (all? rules').map isValid := by
  have hempty : tests rules = [] ↔ tests rules' = [] := by
    simp only [List.eq_nil_iff_forall_not_mem, h]
  have hall : ∀ x, (tests rules).all (· x) = (tests rules').all (· x) := by
    intro x
    rw [Bool.eq_iff_iff]
    simp only [List.all_eq_true, h]
  simp only [map_isValid_all?, List.isEmpty_iff, hempty, hall]

theorem agree_not (ho : ∀ r, rule = some r → Opposed r) (ho' : ∀ r, rule' = some r → Opposed r)
    (h : rule.map isValid = rule'.map isValid) : (rule.map not).map isValid = (rule'.map not).map isValid := by
  cases rule <;> cases rule' <;> try contradiction
  case none.none => rfl
  case some.some r r' =>
    have hv : r.isValid = r'.isValid := Option.some.inj h
    exact congrArg some (funext fun x => by rw [isValid_not (ho r rfl), isValid_not (ho' r' rfl), hv])

theorem isNone_outcome {valid : Bool} {name : String} {details : Json} :
    (outcome valid .require name details).isNone = valid := by
  cases valid <;> rfl

theorem judge_bounded : (bounded l strict bound given).judge x mode =
    ifPresent x (x.asNumber?.bind fun current => outcome (l.admits strict current bound) mode l.name
      (.obj [(l.detail, given), ("currentValue", x)])) := rfl

theorem isValid_bounded : (bounded l strict bound given).isValid x =
    (x.isEmpty || x.asNumber?.all fun current => l.admits strict current bound) := by
  rw [isValid_eq, judge_bounded, ifPresent]
  cases x.isEmpty <;> cases x.asNumber? <;> simp [isNone_outcome]

-- A strict limit says the same as its exclusive form.
theorem isValid_limitRule? {k k' : Limit} {strict strict' : Bool}
    (h : ∀ current bound, k.admits strict current bound = k'.admits strict' current bound) :
    (Keyword.limitRule? k strict given).map isValid = (Keyword.limitRule? k' strict' given).map isValid := by
  rw [Keyword.limitRule?, Keyword.limitRule?, Option.map_map, Option.map_map]
  congr 1
  funext bound x
  simp only [Function.comp_apply, isValid_bounded, h]

section Dependencies

variable {checks : List (String × List String × List (String × Rule))} {object errors : Dict Json}
  {members : List (String × Rule)} {check : List String × List (String × Rule)} {trigger : String}

-- Whether an object has the members that another one of its members asks for, and they keep their rules.
def meets (object : Dict Json) (check : List String × List (String × Rule)) : Bool :=
  (missing object check.1).isEmpty && check.2.all fun e => e.2.isValid ((object.get? e.1).getD .null)

theorem isEmpty_memberErrors : (memberErrors members object errors).isEmpty =
    (errors.isEmpty && members.all fun e => e.2.isValid ((object.get? e.1).getD .null)) := by
  induction members generalizing errors
  case nil => simp [memberErrors]
  case cons e members hi =>
    obtain ⟨name, r⟩ := e
    rw [memberErrors, List.all_cons, isValid_eq]
    split
    case h_1 e hj =>
      have hne : List.isEmpty (errors.insert name (.obj e)) = false :=
        Bool.eq_false_iff.mpr fun hnil => by
          have hg := Dict.get?_insert errors name name (.obj e)
          rw [List.isEmpty_iff.mp hnil, if_pos rfl] at hg
          contradiction
      simp [hi, hj, hne]
    case h_2 hj => rw [hi, hj, Option.isNone_none, Bool.true_and]

-- What is wrong with the names and the members that a trigger asks for.
def triggerErrors (object : Dict Json) (check : List String × List (String × Rule)) : Violations :=
  memberErrors check.2 object
    (if (missing object check.1).isEmpty then [] else [("required", .arr ((missing object check.1).map .str))])

theorem isEmpty_triggerErrors : (triggerErrors object check).isEmpty = meets object check := by
  rw [triggerErrors, isEmpty_memberErrors, meets]
  split <;> simp_all

theorem triggered_cons : triggered ((trigger, check) :: checks) object =
    if (object.get? trigger).any Json.hasValue then
      if (triggerErrors object check).isEmpty then triggered checks object
      else (trigger, .obj (triggerErrors object check)) :: triggered checks object
    else triggered checks object := by
  rw [triggered]
  rfl

theorem isEmpty_triggered : (triggered checks object).isEmpty =
    checks.all fun c => !(object.get? c.1).any Json.hasValue || meets object c.2 := by
  induction checks
  case nil => rfl
  case cons c checks hi =>
    obtain ⟨trigger, check⟩ := c
    rw [triggered_cons, isEmpty_triggerErrors, List.all_cons, ← hi]
    cases (object.get? trigger).any Json.hasValue
    case false => rfl
    case true => cases meets object check <;> rfl

theorem judge_dependencies : (dependencies checks).judge x mode =
    x.members?.bind fun object => outcome (triggered checks object).isEmpty mode "dependencies"
      (.obj (triggered checks object)) := rfl

theorem isValid_dependencies : (dependencies checks).isValid x =
    x.members?.all fun object => checks.all fun c => !(object.get? c.1).any Json.hasValue || meets object c.2 := by
  rw [isValid_eq, judge_dependencies]
  cases x.members? <;> simp [isNone_outcome, isEmpty_triggered]

end Dependencies

end Rule

end FormModel
