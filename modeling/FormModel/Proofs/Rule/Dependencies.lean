import FormModel.Proofs.Dict
import FormModel.Proofs.Json.Parts
import FormModel.Proofs.Rule.Keyed

/-!
The errors of dependencies.  The record has an entry for every trigger that is there without all that it asks for, and in
it the errors of every member that breaks its rules.  The list of the names that are missing stands under `required`,
where the errors of a member of that name take its place.
-/

namespace FormModel

namespace Rule

variable {r : Rule} {rules : List (String × Rule)} {checks : List (String × List String × List (String × Rule))}
  {check : List String × List (String × Rule)} {object errors : Dict Json} {name trigger : String} {x : Json}

theorem check_require : r.check x .require = r.judge x .require := if_neg nofun

-- What is wrong with a member, where there are rules for it.
def memberError? (rules : List (String × Rule)) (object : Dict Json) (name : String) : Option Violations :=
  (Dict.get? rules name).bind fun r => r.check ((object.get? name).getD .null) .require

theorem memberError?_cons : memberError? ((trigger, r) :: rules) object name =
    if trigger = name then r.check ((object.get? trigger).getD .null) .require else memberError? rules object name := by
  rw [memberError?, Dict.get?]
  split
  case isTrue he =>
    subst he
    rfl
  case isFalse => rfl

theorem memberError?_of_not_mem (h : name ∉ Dict.keys rules) : memberError? rules object name = none := by
  rw [memberError?, Dict.get?_eq_none.mpr h, Option.bind_none]

theorem get?_memberErrors (hd : (Dict.keys rules).Nodup) :
    Dict.get? (memberErrors rules object errors) name =
      ((memberError? rules object name).map Json.obj).or (errors.get? name) := by
  induction rules generalizing errors
  case nil => rfl
  case cons rule rules hi =>
    obtain ⟨k, r⟩ := rule
    have ⟨hk, hd⟩ := List.nodup_cons.mp hd
    rw [memberErrors, ← check_require, memberError?_cons]
    by_cases he : k = name
    case neg =>
      rw [if_neg he]
      split <;> simp [hi hd, Dict.get?_insert, he]
    case pos =>
      -- No later rule is for the same member.
      subst he
      rw [if_pos rfl]
      split
      case h_1 e he => simp [hi hd, memberError?_of_not_mem hk, he, Dict.get?_insert]
      case h_2 he => simp [hi hd, memberError?_of_not_mem hk, he]

theorem all_isValid_eq_false_iff (hd : (Dict.keys rules).Nodup) :
    (rules.all fun e => e.2.isValid ((object.get? e.1).getD .null)) = false ↔
      ∃ name, (memberError? rules object name).isSome := by
  simp only [List.all_eq_false, isValid, Bool.not_eq_true, Option.isNone_eq_false_iff]
  constructor
  case mp =>
    rintro ⟨⟨name, r⟩, he, hv⟩
    refine ⟨name, ?_⟩
    rwa [memberError?, Dict.get?_of_mem hd he, Option.bind_some]
  case mpr =>
    rintro ⟨name, hb⟩
    obtain ⟨e, hb⟩ := Option.isSome_iff_exists.mp hb
    obtain ⟨r, hr, he⟩ := Option.bind_eq_some_iff.mp hb
    exact ⟨(name, r), Dict.mem_of_get? hr, Option.isSome_of_eq_some he⟩

theorem meets_eq_false_iff (hd : (Dict.keys check.2).Nodup) : meets object check = false ↔
    missing object check.1 ≠ [] ∨ ∃ name, (memberError? check.2 object name).isSome := by
  rw [meets, Bool.and_eq_false_iff, all_isValid_eq_false_iff hd, List.isEmpty_eq_false_iff]

theorem get?_triggerErrors (hd : (Dict.keys check.2).Nodup) : Dict.get? (triggerErrors object check) name =
    ((memberError? check.2 object name).map Json.obj).or
      (if name = "required" ∧ missing object check.1 ≠ [] then some (.arr ((missing object check.1).map .str))
        else none) := by
  rw [triggerErrors, get?_memberErrors hd]
  congr 1
  cases missing object check.1
  case nil => simp
  case cons => simp [Dict.get?, eq_comm]

-- The entry of a trigger, which has a value, if something is wrong.
def triggerReport? (object : Dict Json) (trigger : String) (check : List String × List (String × Rule)) :
    Option Violations :=
  if (object.get? trigger).any Json.hasValue ∧ meets object check = false then some (triggerErrors object check) else none

theorem triggerReport?_nil : triggerReport? object trigger ([], []) = none := if_neg nofun

theorem isSome_triggerReport? : (triggerReport? object trigger check).isSome ↔
    (object.get? trigger).any Json.hasValue ∧ meets object check = false := by
  simp [triggerReport?]

theorem eq_triggerErrors (h : triggerReport? object trigger check = some errors) : triggerErrors object check = errors := by
  rw [triggerReport?] at h
  split at h
  case isTrue => exact Option.some.inj h
  case isFalse => contradiction

theorem triggered_eq : triggered checks object =
    checks.filterMap fun c => ((triggerReport? object c.1 c.2).map .obj).map (c.1, ·) := by
  induction checks
  case nil => rfl
  case cons c checks hi =>
    obtain ⟨trigger, check⟩ := c
    rw [triggered_cons, isEmpty_triggerErrors, List.filterMap_cons, ← hi, triggerReport?]
    cases (object.get? trigger).any Json.hasValue
    case false => rfl
    case true => cases meets object check <;> rfl

theorem get?_triggered (hd : (Dict.keys checks).Nodup) : Dict.get? (triggered checks object) trigger =
    (Dict.get? checks trigger).bind fun check => (triggerReport? object trigger check).map Json.obj := by
  rw [triggered_eq]
  exact Dict.get?_filterMap (f := fun trigger check => (triggerReport? object trigger check).map Json.obj) hd

-- The entry of a trigger in a record of dependencies.
def entryOf? (record : Option Violations) (trigger : String) : Option Violations :=
  ((record.bind (Dict.get? · "dependencies")).bind (·.member? trigger)).bind Json.members?

theorem entryOf?_dependencies (hd : (Dict.keys checks).Nodup) :
    entryOf? ((dependencies checks).check (.obj object) .require) trigger =
      (Dict.get? checks trigger).bind (triggerReport? object trigger) := by
  have he : entryOf? ((dependencies checks).check (.obj object) .require) trigger =
      (Dict.get? (triggered checks object) trigger).bind Json.members? := by
    rw [check_require, judge_dependencies]
    change entryOf? (outcome (List.isEmpty _) .require "dependencies" (.obj (triggered checks object))) trigger = _
    cases triggered checks object <;> rfl
  rw [he, get?_triggered hd]
  cases Dict.get? checks trigger
  case none => rfl
  case some check => exact Option.bind_map.trans (Option.bind_fun_some _)

end Rule

namespace Keyword

variable {formats : FormatTable} {dependency spec : Json} {object : Dict Json} {name trigger : String} {r : Rule}

-- The names that a trigger asks for.
def namesAsked : Json → List String
  | .arr items => namesOf (.arr items)
  | dependency => namesOf ((dependency.member? "required").getD .null)

-- The schemas that a trigger has for members.
def membersAsked (dependency : Json) : Dict Json := ((dependency.member? "properties").bind Json.members?).getD []

-- What is wrong with a member for which a trigger has a rule.
def brokenAsked? (formats : FormatTable) (dependency : Json) (object : Dict Json) (name : String) : Option Violations :=
  (((membersAsked dependency).get? name).bind (memberRule? formats)).bind fun r =>
    r.check ((object.get? name).getD .null) .require

-- The check of a trigger, with nothing in it where the value is neither an array nor an object.
def checkOf (formats : FormatTable) (dependency : Json) : List String × List (String × Rule) :=
  (check? formats dependency).getD ([], [])

theorem checkOf_names : (checkOf formats dependency).1 = namesAsked dependency := by
  cases dependency <;> rfl

theorem checkOf_rules : (checkOf formats dependency).2 =
    (membersAsked dependency).filterMap fun e => (memberRule? formats e.2).map (e.1, ·) := by
  cases dependency
  case obj => exact propertyRules_eq.trans memberRules_eq
  all_goals rfl

theorem nodup_membersAsked (hd : dependency.Distinct) : (membersAsked dependency).keys.Nodup := by
  rw [membersAsked]
  cases hp : dependency.member? "properties"
  case none => exact List.nodup_nil
  case some properties =>
    have hd : properties.Distinct := hd.atSlot (Json.member?_eq_atSlot? ▸ hp)
    cases properties
    case obj => exact hd.1
    all_goals exact List.nodup_nil

theorem nodup_checkOf (hd : dependency.Distinct) : (Dict.keys (checkOf formats dependency).2).Nodup := by
  rw [checkOf_rules]
  exact (nodup_membersAsked hd).sublist (Dict.keys_filterMap_sublist (f := fun _ => memberRule? formats))

theorem memberError?_checkOf (hd : dependency.Distinct) :
    Rule.memberError? (checkOf formats dependency).2 object name = brokenAsked? formats dependency object name := by
  rw [checkOf_rules, Rule.memberError?, Dict.get?_filterMap (f := fun _ => memberRule? formats) (nodup_membersAsked hd)]
  rfl

theorem meets_checkOf_eq_false_iff (hd : dependency.Distinct) :
    Rule.meets object (checkOf formats dependency) = false ↔
      Rule.missing object (namesAsked dependency) ≠ [] ∨
        ∃ name, (brokenAsked? formats dependency object name).isSome := by
  rw [Rule.meets_eq_false_iff (nodup_checkOf hd), checkOf_names]
  simp only [memberError?_checkOf hd]

theorem get?_triggerErrors_checkOf (hd : dependency.Distinct) :
    Dict.get? (Rule.triggerErrors object (checkOf formats dependency)) name =
      ((brokenAsked? formats dependency object name).map Json.obj).or
        (if name = "required" ∧ Rule.missing object (namesAsked dependency) ≠ [] then
          some (.arr ((Rule.missing object (namesAsked dependency)).map .str)) else none) := by
  rw [Rule.get?_triggerErrors (nodup_checkOf hd), memberError?_checkOf hd, checkOf_names]

-- The entry of a trigger in the record of a rule.
theorem entryOf?_rule? (hs : spec.Distinct) (hr : Keyword.dependencies.rule? formats [spec] = some r) :
    Rule.entryOf? (r.check (.obj object) .require) trigger =
      Rule.triggerReport? object trigger (checkOf formats ((spec.member? trigger).getD .null)) := by
  change dependencyRule? formats spec = some r at hr
  cases spec
  case obj triggers =>
    rw [dependencyRule?] at hr
    split at hr
    case isTrue => contradiction
    case isFalse =>
      obtain rfl := Option.some.inj hr
      rw [dependencyChecks_eq, Rule.entryOf?_dependencies
        (hs.1.sublist (Dict.keys_filterMap_sublist (f := fun _ => check? formats))),
        Dict.get?_filterMap (f := fun _ => check? formats) hs.1]
      change (((Json.obj triggers).member? trigger).bind _).bind _ = _
      cases (Json.obj triggers).member? trigger
      case none => exact Rule.triggerReport?_nil.symm
      case some dependency =>
        rw [Option.bind_some, Option.getD_some, checkOf]
        cases check? formats dependency
        case none => exact Rule.triggerReport?_nil.symm
        case some => rfl
  all_goals simp [dependencyRule?] at hr

theorem distinct_dependency (hs : spec.Distinct) : ((spec.member? trigger).getD .null).Distinct := by
  cases hd : spec.member? trigger
  case none => exact trivial
  case some dependency => exact hs.atSlot (Json.member?_eq_atSlot? ▸ hd)

-- Nothing that is wrong is left out, but for one case: the errors of a member with the name `required` take the place of the
-- names that are missing.
theorem dependencyErrors_kept_iff (hs : spec.Distinct) (hr : Keyword.dependencies.rule? formats [spec] = some r)
    (object : Dict Json) (trigger : String) :
    let asked := (spec.member? trigger).getD .null
    let absent := Rule.missing object (namesAsked asked)
    let broken := brokenAsked? formats asked object
    let entry := Rule.entryOf? (r.check (.obj object) .require) trigger
    (entry.isSome ↔ (object.get? trigger).any Json.hasValue ∧ (absent ≠ [] ∨ ∃ name, (broken name).isSome)) ∧
    ∀ errors, entry = some errors →
      (∀ name e, broken name = some e → Dict.get? errors name = some (.obj e)) ∧
      (absent ≠ [] → (Dict.get? errors "required" = some (.arr (absent.map .str)) ↔ broken "required" = none)) := by
  intro asked absent broken entry
  have hd : asked.Distinct := distinct_dependency hs
  have he : entry = Rule.triggerReport? object trigger (checkOf formats asked) := entryOf?_rule? hs hr
  refine ⟨?_, fun errors hs => ?_⟩
  case refine_1 => rw [he, Rule.isSome_triggerReport?, meets_checkOf_eq_false_iff hd]
  case refine_2 =>
    obtain rfl := Rule.eq_triggerErrors (he ▸ hs)
    refine ⟨fun name e hb => ?_, fun ha => ?_⟩
    case refine_1 =>
      have hb : brokenAsked? formats asked object name = some e := hb
      rw [get?_triggerErrors_checkOf hd, hb]
      rfl
    case refine_2 =>
      rw [get?_triggerErrors_checkOf hd, if_pos ⟨rfl, ha⟩]
      change _ ↔ brokenAsked? formats asked object "required" = none
      cases brokenAsked? formats asked object "required" <;> simp [absent]

-- Two names are asked for, of which one is missing, and a member has a rule that it breaks.
theorem dependencyErrors_kept_iff_card :
    let spec := Json.obj [("card", .obj [("required", .arr [.str "billing", .str "owner"]),
      ("properties", .obj [("owner", .obj [("const", .str "me")])])])]
    let object := [("card", Json.str "x"), ("owner", .str "you")]
    let owner := Json.obj [("requiredValue", .str "me"), ("currentValue", .str "you")]
    ∃ r, spec.Distinct ∧ Keyword.dependencies.rule? [] [spec] = some r ∧
      (Rule.entryOf? (r.check (.obj object) .require) "card").isSome ∧
      ∀ errors, Rule.entryOf? (r.check (.obj object) .require) "card" = some errors →
        Dict.get? errors "owner" = some (.obj [("const", owner), ("allOf", .bool true)]) ∧
        Dict.get? errors "required" = some (.arr [.str "billing"]) := by
  intro spec object owner
  have hd : spec.Distinct := by simp [spec, Json.Distinct, Json.DistinctMembers, Json.DistinctItems, Dict.keys]
  have hr : Keyword.dependencies.rule? [] [spec] = some (.dependencies [("card", ["billing", "owner"],
      [("owner", .allOf [.const (.str "me")])])]) := rfl
  have hk := dependencyErrors_kept_iff hd hr object "card"
  have hb : brokenAsked? [] ((spec.member? "card").getD .null) object "owner" =
      some [("const", owner), ("allOf", .bool true)] := rfl
  have ha : Rule.missing object (namesAsked ((spec.member? "card").getD .null)) = ["billing"] := by decide
  refine ⟨_, hd, hr, hk.1.mpr ⟨rfl, .inr ⟨"owner", Option.isSome_of_eq_some hb⟩⟩, fun errors he => ?_⟩
  obtain ⟨hbroken, habsent⟩ := hk.2 errors he
  refine ⟨hbroken "owner" _ hb, ?_⟩
  rw [(habsent (by rw [ha]; exact List.cons_ne_nil _ _)).mpr rfl, ha]
  rfl

-- A member with the name `required` breaks its rule, and the name that is missing is nowhere in the entry.
theorem missingNames_lost_required :
    let spec := Json.obj [("a", .obj [("required", .arr [.str "b"]),
      ("properties", .obj [("required", .obj [("const", .str "yes")])])])]
    let object := [("a", Json.str "x"), ("required", .str "no")]
    let const := Json.obj [("requiredValue", .str "yes"), ("currentValue", .str "no")]
    ∃ r, Keyword.dependencies.rule? [] [spec] = some r ∧
      Rule.missing object (namesAsked ((spec.member? "a").getD .null)) = ["b"] ∧
      Rule.entryOf? (r.check (.obj object) .require) "a" =
        some [("required", .obj [("const", const), ("allOf", .bool true)])] ∧
      ∀ errors, Rule.entryOf? (r.check (.obj object) .require) "a" = some errors →
        Dict.get? errors "required" ≠ some (.arr [.str "b"]) := by
  refine ⟨_, rfl, by decide, rfl, fun errors he hr => ?_⟩
  obtain rfl := Option.some.inj he
  exact Json.noConfusion (Option.some.inj hr)

end Keyword

end FormModel
