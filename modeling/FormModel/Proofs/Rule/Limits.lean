import FormModel.Proofs.Draft.Idempotent
import FormModel.Proofs.Draft.Limits
import FormModel.Proofs.Rule.Keyed

/-!
Exclusive limits mean the same before and after a schema is said in draft 6.  Whether the flag is read beside the
limit or the limit has become an exclusive one, the same rules come of it, wherever in the schema it stands.
-/

namespace FormModel

open Draft

variable {formats : FormatTable} {allowed : String → Bool} {isLimit : Json → Bool} {node node' : Dict Json}
  {key limit exclusive : String} {v v' s s' : Json} {test : Json → Bool} {k k' : Limit}

section Keys

-- The rules of a limit and of its exclusive form.
theorem tests_of_respelled {l x l' x' : Option Json} (h : Respelled l x l' x')
    (hk : ∀ current bound, k.admits true current bound = k'.admits false current bound)
    (hn : ∀ v, v.isNum = true → isLimit v = true) (hb : ∀ b, isLimit (.bool b) = false) (test : Json → Bool) :
    ((l.bind fun v => (Keyword.limitRule? k (x.any Json.isTrue) v).map Rule.isValid) = some test ∨
      (x.bind fun v => if isLimit v = false then none else (Keyword.limitRule? k' false v).map Rule.isValid) = some test) ↔
    ((l'.bind fun v => (Keyword.limitRule? k (x'.any Json.isTrue) v).map Rule.isValid) = some test ∨
      (x'.bind fun v => if isLimit v = false then none else (Keyword.limitRule? k' false v).map Rule.isValid) = some test) := by
  cases h
  case kept => exact Iff.rfl
  case dropped flag hf =>
    cases flag
    case false => simp [hb, Json.isTrue]
    case true => simp [hf rfl, hb]
  case moved bound hnum =>
    simp [hb, hn bound hnum, Json.isTrue, Rule.isValid_limitRule? hk]

theorem keyTest?_of_not_allowed (ha : allowed key = false) : keyTest? formats allowed isLimit node key = none := by
  rw [keyTest?]
  cases Dict.get? node key <;> simp [keyRule?, ha]

theorem keyTest?_minimum (ha : allowed "minimum" = true) : keyTest? formats allowed isLimit node "minimum" =
    (node.get? "minimum").bind fun v =>
      (Keyword.limitRule? .minimum ((node.get? "exclusiveMinimum").any Json.isTrue) v).map Rule.isValid := by
  simp [keyTest?, Option.map_bind, keyRule?_of_allowed ha]

theorem keyTest?_maximum (ha : allowed "maximum" = true) : keyTest? formats allowed isLimit node "maximum" =
    (node.get? "maximum").bind fun v =>
      (Keyword.limitRule? .maximum ((node.get? "exclusiveMaximum").any Json.isTrue) v).map Rule.isValid := by
  simp [keyTest?, Option.map_bind, keyRule?_of_allowed ha]

theorem keyTest?_exclusiveMinimum (ha : allowed "exclusiveMinimum" = true) :
    keyTest? formats allowed isLimit node "exclusiveMinimum" = (node.get? "exclusiveMinimum").bind fun v =>
      if isLimit v = false then none else (Keyword.limitRule? .exclusiveMinimum false v).map Rule.isValid := by
  have hrule : ∀ v, RuleBag.entryRule? formats "exclusiveMinimum" [v] = Keyword.limitRule? .exclusiveMinimum false v :=
    fun _ => entryRule?_name (k := .exclusiveMinimum)
  rw [keyTest?, Option.map_bind]
  congr 1
  funext v
  cases hv : isLimit v <;> simp [keyRule?_of_allowed ha, hv, hrule]

theorem keyTest?_exclusiveMaximum (ha : allowed "exclusiveMaximum" = true) :
    keyTest? formats allowed isLimit node "exclusiveMaximum" = (node.get? "exclusiveMaximum").bind fun v =>
      if isLimit v = false then none else (Keyword.limitRule? .exclusiveMaximum false v).map Rule.isValid := by
  have hrule : ∀ v, RuleBag.entryRule? formats "exclusiveMaximum" [v] = Keyword.limitRule? .exclusiveMaximum false v :=
    fun _ => entryRule?_name (k := .exclusiveMaximum)
  rw [keyTest?, Option.map_bind]
  congr 1
  funext v
  cases hv : isLimit v <;> simp [keyRule?_of_allowed ha, hv, hrule]

-- What counts as a limit beside its flag, in a place where limits and exclusive limits make rules alike.
structure LimitPlace (allowed : String → Bool) (isLimit : Json → Bool) : Prop where
  minimum : allowed "exclusiveMinimum" = allowed "minimum"
  maximum : allowed "exclusiveMaximum" = allowed "maximum"
  number : ∀ v, v.isNum = true → isLimit v = true
  flag : ∀ b, isLimit (.bool b) = false

variable {R : String → Json → Json → Prop}

theorem keyTest?_iff_of_minimum (hp : LimitPlace allowed isLimit) (h : Rewritten R node node') (test : Json → Bool) :
    (keyTest? formats allowed isLimit node "minimum" = some test ∨
      keyTest? formats allowed isLimit node "exclusiveMinimum" = some test) ↔
    (keyTest? formats allowed isLimit node' "minimum" = some test ∨
      keyTest? formats allowed isLimit node' "exclusiveMinimum" = some test) := by
  cases ha : allowed "minimum"
  case false => simp [keyTest?_of_not_allowed ha, keyTest?_of_not_allowed (hp.minimum.trans ha)]
  case true =>
    simp only [keyTest?_minimum ha, keyTest?_exclusiveMinimum (hp.minimum.trans ha)]
    exact tests_of_respelled h.minimum (fun _ _ => rfl) hp.number hp.flag test

theorem keyTest?_iff_of_maximum (hp : LimitPlace allowed isLimit) (h : Rewritten R node node') (test : Json → Bool) :
    (keyTest? formats allowed isLimit node "maximum" = some test ∨
      keyTest? formats allowed isLimit node "exclusiveMaximum" = some test) ↔
    (keyTest? formats allowed isLimit node' "maximum" = some test ∨
      keyTest? formats allowed isLimit node' "exclusiveMaximum" = some test) := by
  cases ha : allowed "maximum"
  case false => simp [keyTest?_of_not_allowed ha, keyTest?_of_not_allowed (hp.maximum.trans ha)]
  case true =>
    simp only [keyTest?_maximum ha, keyTest?_exclusiveMaximum (hp.maximum.trans ha)]
    exact tests_of_respelled h.maximum (fun _ _ => rfl) hp.number hp.flag test

theorem keyTest?_of_not_keyword (h : Keyword.ofName? key = none) : keyTest? formats allowed isLimit node key = none := by
  have hmin : key ≠ "minimum" := fun hk => absurd (hk ▸ h) (by decide)
  have hmax : key ≠ "maximum" := fun hk => absurd (hk ▸ h) (by decide)
  rw [keyTest?]
  cases Dict.get? node key <;> simp [keyRule?, hmin, hmax, RuleBag.entryRule?, h]

-- A keyword that is not rewritten makes the same rule as before if its value makes the same rule.
theorem keyTest?_eq_of_other (h : Rewritten R node node') (hk : key ∉ rewrittenKeys) (hr : ∀ v v', R key v v' →
      (RuleBag.entryRule? formats key [v]).map Rule.isValid = (RuleBag.entryRule? formats key [v']).map Rule.isValid) :
    keyTest? formats allowed isLimit node key = keyTest? formats allowed isLimit node' key := by
  cases ha : allowed key
  case false => rw [keyTest?_of_not_allowed ha, keyTest?_of_not_allowed ha]
  case true =>
    have hrel := h.other key hk
    simp only [rewrittenKeys, List.mem_cons, List.not_mem_nil, or_false, not_or] at hk
    have hrule : ∀ node v, keyRule? formats allowed isLimit node key v = RuleBag.entryRule? formats key [v] := by
      simp [keyRule?_of_allowed ha, hk]
    rw [keyTest?, keyTest?]
    revert hrel
    generalize Dict.get? node key = v
    generalize Dict.get? node' key = v'
    rintro (hv | _)
    · rw [Option.bind_some, Option.bind_some, hrule, hrule, hr _ _ hv]
    · rfl

theorem exists_key_iff {P : String → Prop} : (∃ key, P key) ↔ (P "minimum" ∨ P "exclusiveMinimum") ∨
    (P "maximum" ∨ P "exclusiveMaximum") ∨ (P "$schema" ∨ P "description") ∨ ∃ key, key ∉ rewrittenKeys ∧ P key := by
  constructor
  case mp =>
    intro ⟨key, hp⟩
    by_cases hk : key ∈ rewrittenKeys
    case neg => exact .inr (.inr (.inr ⟨key, hk, hp⟩))
    case pos =>
      simp only [rewrittenKeys, List.mem_cons, List.not_mem_nil, or_false] at hk
      obtain rfl | rfl | rfl | rfl | rfl | rfl := hk <;> simp [hp]
  case mpr =>
    rintro ((hp | hp) | (hp | hp) | (hp | hp) | ⟨_, _, hp⟩)
    all_goals exact ⟨_, hp⟩

-- The keywords of a node make the same rules as before, though not each under the same key.
theorem exists_keyTest?_iff (hp : LimitPlace allowed isLimit) (h : Rewritten R node node') (hr : ∀ key v v', R key v v' →
      (RuleBag.entryRule? formats key [v]).map Rule.isValid = (RuleBag.entryRule? formats key [v']).map Rule.isValid)
    (test : Json → Bool) : (∃ key, keyTest? formats allowed isLimit node key = some test) ↔
      ∃ key, keyTest? formats allowed isLimit node' key = some test := by
  have hnone : ∀ node, ∀ key ∈ ["$schema", "description"], keyTest? formats allowed isLimit node key = none :=
    fun _ key hk => keyTest?_of_not_keyword ((by decide : ∀ key ∈ ["$schema", "description"], Keyword.ofName? key = none) key hk)
  have hother : ∀ key, key ∉ rewrittenKeys ∧ keyTest? formats allowed isLimit node key = some test ↔
      key ∉ rewrittenKeys ∧ keyTest? formats allowed isLimit node' key = some test :=
    fun key => and_congr_right fun hk => by rw [keyTest?_eq_of_other h hk (hr key)]
  refine exists_key_iff.trans (Iff.trans ?_ exists_key_iff.symm)
  rw [keyTest?_iff_of_minimum hp h, keyTest?_iff_of_maximum hp h]
  simp only [hother, hnone _ "$schema" (by decide), hnone _ "description" (by decide)]

theorem limitPlace_own : LimitPlace ownKey Json.isNum := ⟨by decide, by decide, fun _ => id, fun _ => rfl⟩

theorem number_not_isBool (v : Json) (h : v.isNum = true) : (!v.isBool) = true := by
  cases v <;> first | rfl | contradiction

theorem limitPlace_member : LimitPlace (fun _ => true) (fun v => !v.isBool) := ⟨rfl, rfl, number_not_isBool, fun _ => rfl⟩

theorem limitPlace_control (types : List SchemaType) : LimitPlace (RuleBag.controlKey types) (fun v => !v.isBool) := by
  have hmin : ∀ t, "exclusiveMinimum" ∈ RuleBag.typeKeys t ↔ "minimum" ∈ RuleBag.typeKeys t := fun t => by cases t <;> decide
  have hmax : ∀ t, "exclusiveMaximum" ∈ RuleBag.typeKeys t ↔ "maximum" ∈ RuleBag.typeKeys t := fun t => by cases t <;> decide
  refine ⟨?_, ?_, number_not_isBool, fun _ => rfl⟩
  all_goals simp [RuleBag.controlKey, hmin, hmax]

end Keys

section Alike

-- Two schemas that make the same rules: by themselves, for a member, for a trigger, and for a control.
structure Alike (formats : FormatTable) (s s' : Json) : Prop where
  schema : (schemaRule? formats s).map Rule.isValid = (schemaRule? formats s').map Rule.isValid
  listed : (s.items?.getD []).map (fun i => (schemaRule? formats i).map Rule.isValid) =
    (s'.items?.getD []).map fun i => (schemaRule? formats i).map Rule.isValid
  member : (Keyword.memberRule? formats s).map Rule.isValid = (Keyword.memberRule? formats s').map Rule.isValid
  check : (Keyword.check? formats s).map (fun c object => Rule.meets object c) =
    (Keyword.check? formats s').map fun c object => Rule.meets object c
  control : ((RuleBag.ofControl s).rule? formats).map Rule.isValid = ((RuleBag.ofControl s').rule? formats).map Rule.isValid

theorem Alike.refl (s : Json) : Alike formats s s := ⟨rfl, rfl, rfl, rfl, rfl⟩

-- Two values of a keyword that hold schemas which make the same rules.
inductive AlikeAt (formats : FormatTable) (key : String) : Json → Json → Prop where
  | schema (h : holdsSchema key = true) {s s' : Json} (ha : Alike formats s s') : AlikeAt formats key s s'
  | named (h : holdsNamedSchemas key = true) {members members' : Dict Json}
    (hm : List.Forall₂ (fun e e' => e'.1 = e.1 ∧ Alike formats e.2 e'.2) members members') :
    AlikeAt formats key (.obj members) (.obj members')
  | same {v : Json} : AlikeAt formats key v v

-- The entries that are made of the members of a dictionary, if what they are made into is the same.
theorem map_filterMap_of_forall₂ {α β : Type} {make : Json → Option α} {see : α → β} {members members' : Dict Json}
    (h : List.Forall₂ (fun e e' => e'.1 = e.1 ∧ (make e.2).map see = (make e'.2).map see) members members') :
    (members.filterMap fun e => (make e.2).map (e.1, ·)).map (fun e => (e.1, see e.2)) =
      (members'.filterMap fun e => (make e.2).map (e.1, ·)).map fun e => (e.1, see e.2) := by
  induction h
  case nil => rfl
  case cons e e' _ _ he _ hi =>
    obtain ⟨key, v⟩ := e
    obtain ⟨key', v'⟩ := e'
    obtain ⟨rfl, hs⟩ := he
    rw [List.filterMap_cons, List.filterMap_cons]
    revert hs
    dsimp only
    cases make v <;> cases make v' <;> simp_all

section Dependencies

variable {members members' : Dict Json} (h : List.Forall₂ (fun e e' => e'.1 = e.1 ∧ Alike formats e.2 e'.2) members members')

theorem map_isValid_dependencyRule? : (Keyword.dependencyRule? formats (.obj members)).map Rule.isValid =
    let asked := (Keyword.dependencyChecks formats members).map fun e => (e.1, fun object => Rule.meets object e.2)
    if asked.isEmpty then none
    else some fun x => x.members?.all fun object => asked.all fun e => !(object.get? e.1).any Json.hasValue || e.2 object := by
  rw [Keyword.dependencyRule?]
  dsimp only
  rw [List.isEmpty_map]
  split
  case isTrue => rfl
  case isFalse =>
    refine congrArg some (funext fun x => ?_)
    simp only [Rule.isValid_dependencies, List.all_map]
    rfl

include h

theorem agree_dependencyRule? : (Keyword.dependencyRule? formats (.obj members)).map Rule.isValid =
    (Keyword.dependencyRule? formats (.obj members')).map Rule.isValid := by
  have hc := map_filterMap_of_forall₂ (h.imp fun _ _ he => ⟨he.1, he.2.check⟩)
  rw [map_isValid_dependencyRule?, map_isValid_dependencyRule?, Keyword.dependencyChecks_eq, Keyword.dependencyChecks_eq, hc]

theorem all_memberRules (object : Dict Json) :
    ((Keyword.memberRules formats members).all fun e => e.2.isValid ((object.get? e.1).getD .null)) =
      (Keyword.memberRules formats members').all fun e => e.2.isValid ((object.get? e.1).getD .null) := by
  have hm := map_filterMap_of_forall₂ (h.imp fun _ _ he => ⟨he.1, he.2.member⟩)
  have hall : ∀ members, ((Keyword.memberRules formats members).all fun e => e.2.isValid ((object.get? e.1).getD .null)) =
      ((Keyword.memberRules formats members).map fun e => (e.1, e.2.isValid)).all fun e => e.2 ((object.get? e.1).getD .null) :=
    fun members => by
      rw [List.all_map]
      rfl
  rw [hall, hall, Keyword.memberRules_eq, Keyword.memberRules_eq, hm]

end Dependencies

theorem agree_entryRule? (h : AlikeAt formats key v v') :
    (RuleBag.entryRule? formats key [v]).map Rule.isValid = (RuleBag.entryRule? formats key [v']).map Rule.isValid := by
  cases h
  case same => rfl
  case schema h _ =>
    have hk : Keyword.ofName? key = none := by
      simp only [holdsSchema, List.contains_eq_mem, decide_eq_true_eq, List.mem_cons, List.not_mem_nil, or_false] at h
      obtain rfl | rfl | rfl | rfl | rfl | rfl | rfl := h <;> decide
    simp [RuleBag.entryRule?, hk]
  case named h members members' hm =>
    simp only [holdsNamedSchemas, List.contains_eq_mem, decide_eq_true_eq, List.mem_cons, List.not_mem_nil, or_false] at h
    obtain rfl | rfl | rfl | rfl := h
    case inr.inl => exact agree_dependencyRule? hm
    all_goals rfl

section Node

variable (hd : (Dict.keys node).Nodup) (h : Rewritten (AlikeAt formats) node node')
include h

theorem same_of_alike (key : String) (hk : key ∉ rewrittenKeys) (hs : holdsSchema key = false) (hn : holdsNamedSchemas key = false) :
    node'.get? key = node.get? key := by
  have hrel := h.other key hk
  revert hrel
  generalize Dict.get? node key = v
  generalize Dict.get? node' key = v'
  rintro (ha | _)
  · cases ha <;> first | rfl | simp_all
  · rfl

theorem alike_of_holdsSchema (key : String) (hk : key ∉ rewrittenKeys) (hs : holdsSchema key = true) :
    Option.Rel (Alike formats) (node.get? key) (node'.get? key) := by
  have hrel := h.other key hk
  revert hrel
  generalize Dict.get? node key = v
  generalize Dict.get? node' key = v'
  rintro (ha | _)
  · cases ha
    case some.schema _ ha => exact .some ha
    case some.named hn _ _ _ => simp [not_holdsNamedSchemas hs] at hn
    case some.same => exact .some (.refl _)
  · exact .none

theorem listed_of_alike (hk : key ∉ rewrittenKeys) (hs : holdsSchema key = true) :
    ((Json.obj node).listed key).map (fun s => (schemaRule? formats s).map Rule.isValid) =
      ((Json.obj node').listed key).map fun s => (schemaRule? formats s).map Rule.isValid := by
  have hrel := alike_of_holdsSchema h key hk hs
  revert hrel
  simp only [Json.listed, Json.member?, Json.members?, Option.bind_some]
  generalize Dict.get? node key = v
  generalize Dict.get? node' key = v'
  rintro (ha | _)
  · exact ha.listed
  · rfl

theorem members_of_alike (key : String) (hk : key ∉ rewrittenKeys) (hn : holdsNamedSchemas key = true) :
    List.Forall₂ (fun e e' => e'.1 = e.1 ∧ Alike formats e.2 e'.2) (((node.get? key).bind Json.members?).getD [])
      (((node'.get? key).bind Json.members?).getD []) := by
  have hrel := h.other key hk
  revert hrel
  generalize Dict.get? node key = v
  generalize Dict.get? node' key = v'
  rintro (ha | _)
  · cases ha
    case some.schema hs _ => simp [not_holdsNamedSchemas hs] at hn
    case some.named _ _ _ hm => exact hm
    case some.same => exact List.forall₂_same.mpr fun _ _ => ⟨rfl, .refl _⟩
  · exact .nil

theorem agree_listed (hk : key ∉ rewrittenKeys) (hs : holdsSchema key = true) :
    Rule.tests (((Json.obj node).listed key).map (schemaRule? formats)) =
      Rule.tests (((Json.obj node').listed key).map (schemaRule? formats)) := by
  refine Rule.tests_congr ?_
  rw [List.map_map, List.map_map]
  exact listed_of_alike h hk hs

theorem agree_own (hd : (Dict.keys node).Nodup) :
    (Rule.all? (node.map fun e => RuleBag.ownRule? formats node e.1 e.2)).map Rule.isValid =
      (Rule.all? (node'.map fun e => RuleBag.ownRule? formats node' e.1 e.2)).map Rule.isValid := by
  refine Rule.agree_all? fun test => ?_
  rw [mem_tests_own hd, mem_tests_own h.nodup]
  exact exists_keyTest?_iff limitPlace_own h (fun _ _ _ => agree_entryRule?) test

theorem agree_memberNot : (((Json.obj node).member? "not").bind (schemaRule? formats)).map Rule.isValid =
    (((Json.obj node').member? "not").bind (schemaRule? formats)).map Rule.isValid := by
  have hrel := alike_of_holdsSchema h "not" (by decide) (by decide)
  revert hrel
  simp only [Json.member?, Json.members?, Option.bind_some]
  generalize Dict.get? node "not" = v
  generalize Dict.get? node' "not" = v'
  rintro (ha | _)
  · exact ha.schema
  · rfl

theorem agree_schemaRule? (hd : (Dict.keys node).Nodup) :
    (schemaRule? formats (.obj node)).map Rule.isValid = (schemaRule? formats (.obj node')).map Rule.isValid := by
  have hopp : ∀ node r, ((Json.obj node).member? "not").bind (schemaRule? formats) = some r → r.Opposed := by
    intro node r hr
    have ⟨_, _, hr⟩ := Option.bind_eq_some_iff.mp hr
    exact opposed_schemaRule? hr
  have hown := agree_own h hd
  have hall : (Rule.all? (((Json.obj node).listed "allOf").map (schemaRule? formats))).map Rule.isValid =
      (Rule.all? (((Json.obj node').listed "allOf").map (schemaRule? formats))).map Rule.isValid := by
    rw [Rule.map_isValid_all?, Rule.map_isValid_all?, agree_listed h (by decide) (by decide)]
  have hany : (Rule.any? (((Json.obj node).listed "anyOf").map (schemaRule? formats))).map Rule.isValid =
      (Rule.any? (((Json.obj node').listed "anyOf").map (schemaRule? formats))).map Rule.isValid := by
    rw [Rule.map_isValid_any?, Rule.map_isValid_any?, agree_listed h (by decide) (by decide)]
  have hone : (Rule.one? (((Json.obj node).listed "oneOf").map (schemaRule? formats))).map Rule.isValid =
      (Rule.one? (((Json.obj node').listed "oneOf").map (schemaRule? formats))).map Rule.isValid := by
    rw [Rule.map_isValid_one?, Rule.map_isValid_one?, agree_listed h (by decide) (by decide)]
  have hnot := Rule.agree_not (hopp node) (hopp node') (agree_memberNot h)
  have ht := @Rule.tests_congr [_, _, _, _, _] [_, _, _, _, _]
    (congrArg₂ List.cons hown (congrArg₂ List.cons hall (congrArg₂ List.cons hany (congrArg₂ List.cons hone
      (congrArg₂ List.cons hnot rfl)))))
  rw [schemaRule?_obj hd, schemaRule?_obj h.nodup, Rule.map_isValid_all?, Rule.map_isValid_all?, ht]

theorem alike_obj (hd : (Dict.keys node).Nodup) : Alike formats (.obj node) (.obj node') where
  schema := agree_schemaRule? h hd
  listed := rfl
  member := by
    refine Rule.agree_all? fun test => ?_
    rw [Keyword.mem_tests_member hd, Keyword.mem_tests_member h.nodup]
    exact exists_keyTest?_iff limitPlace_member h (fun _ _ _ => agree_entryRule?) test
  check := by
    have hm := all_memberRules (members_of_alike h "properties" (by decide) (by decide))
    simp only [Keyword.check?, Option.map_some, Rule.meets, Keyword.propertyRules_eq, hm,
      same_of_alike h "required" (by decide) (by decide) (by decide)]
  control := by
    have htypes : RuleBag.typesOf node' = RuleBag.typesOf node := by
      rw [RuleBag.typesOf, RuleBag.typesOf, same_of_alike h "type" (by decide) (by decide) (by decide)]
    refine Rule.agree_all? fun test => RuleBag.mem_tests_control.trans (Iff.trans ?_ RuleBag.mem_tests_control.symm)
    rw [htypes]
    exact exists_keyTest?_iff (limitPlace_control _) h (fun _ _ _ => agree_entryRule?) test

end Node

end Alike

section Convert

variable {fuel : Nat} {state state' inner : DraftState} {changed : Bool}

theorem string?_of_convert (h : convert fuel s state = some (s', state')) : s'.string? = s.string? := by
  cases hs : s.isStr
  case true =>
    cases s <;> try contradiction
    cases fuel
    case zero => contradiction
    case succ => rw [convert_scalar rfl h]
  case false =>
    have hs' : s'.isStr = false := (kind_convert h).1.trans hs
    cases s <;> cases s' <;> first | rfl | contradiction

theorem alike_arr {items items' : List Json}
    (h : List.Forall₂ (fun i i' => Alike formats i i' ∧ i'.string? = i.string?) items items') :
    Alike formats (.arr items) (.arr items') := by
  have hmap : ∀ {β : Type} {f : Json → β}, (∀ i i', Alike formats i i' ∧ i'.string? = i.string? → f i = f i') →
      items.map f = items'.map f := fun hf => by
    rw [← List.forall₂_eq_eq_eq, List.forall₂_map_left_iff, List.forall₂_map_right_iff]
    exact h.imp hf
  have hnames : Keyword.namesOf (.arr items) = Keyword.namesOf (.arr items') := by
    have hs := congrArg (List.filterMap id) (hmap (f := Json.string?) fun _ _ hi => hi.2.symm)
    rwa [List.filterMap_map, List.filterMap_map] at hs
  exact ⟨rfl, hmap fun _ _ hi => hi.1.schema, rfl, by rw [Keyword.check?, Keyword.check?, hnames], rfl⟩

theorem distinct_of_mem_schemasAt (hd : v.Distinct) (h : s ∈ schemasAt key v) : s.Distinct := by
  cases v
  case obj members =>
    simp only [schemasAt] at h
    split at h
    case isTrue =>
      obtain ⟨e, he, rfl⟩ := List.mem_map.mp h
      exact Json.distinctMembers_iff.mp hd.2 e he
    case isFalse =>
      split at h
      case isTrue => exact List.mem_singleton.mp h ▸ hd
      case isFalse => exact absurd h List.not_mem_nil
  case arr items =>
    simp only [schemasAt] at h
    split at h
    case isTrue => exact List.mem_singleton.mp h ▸ hd
    case isFalse => exact absurd h List.not_mem_nil
  all_goals exact absurd h List.not_mem_nil

theorem alikeAt_of_converted (h : Converted (convert fuel) inner changed key v v')
    (hi : ∀ s ∈ schemasAt key v, ∀ s' state', convert fuel s inner = some (s', state') → Alike formats s s') :
    AlikeAt formats key v v' := by
  cases h
  case schema hk _ _ hm hv => exact .schema hk (hi _ hm _ _ hv)
  case alone => exact .same
  case named hk members members' hm =>
    simp only [schemasAt, hk, if_true, List.forall_mem_map] at hi
    refine .named hk (((List.forall₂_and_left ..).mpr ⟨hi, hm⟩).imp ?_)
    rintro _ _ ⟨hi, he, _, hv, _⟩
    exact ⟨he, hi _ _ hv⟩

-- Converting a schema in which only limits are flagged makes a schema with the same rules.
theorem alike_convert (hd : s.Distinct) (hs : LimitFlagged s) (hq : Late state)
    (h : convert fuel s state = some (s', state')) : Alike formats s s' := by
  induction fuel generalizing s s' state state'
  case zero => contradiction
  case succ fuel hi =>
    cases s
    case obj node =>
      obtain ⟨node', inner, changed, rfl, hl, hw⟩ := rewritten_of_convert hd.1 hs hq h
      refine alike_obj (hw.imp fun key v v' hv hc => alikeAt_of_converted hc fun s hm s' state' hconv => ?_) hd.1
      cases hs
      case scalar hs => exact nomatch hs
      case node _ hin =>
        have hmem := Dict.mem_of_get? hv
        exact hi (distinct_of_mem_schemasAt (Json.distinctMembers_iff.mp hd.2 _ hmem) hm) (hin _ hmem s hm) hl hconv
    case arr items =>
      obtain ⟨items', hc, rfl⟩ := convert_arr h
      cases hs
      case scalar hs => exact nomatch hs
      case items hin =>
        have hall : ∀ item ∈ items, item.Distinct ∧ LimitFlagged item :=
          fun item hm => ⟨Json.distinctItems_iff.mp hd item hm, hin item hm⟩
        have hitems := (List.forall₂_and_left ..).mpr ⟨hall, convertItems_late hq hc⟩
        exact alike_arr (hitems.imp fun _ _ ⟨⟨hd, hs⟩, _, _, hl, hv⟩ => ⟨hi hd hs hl hv, string?_of_convert hv⟩)
    all_goals
      obtain rfl := convert_scalar rfl h
      exact .refl _

-- A schema in which nothing is said in the words of earlier drafts but that limits are exclusive makes the same
-- rules before and after normalizing, for values and for a control.
theorem rules_normalize (formats : FormatTable) (hd : s.Distinct) (hs : LimitFlagged s) :
    (schemaRule? formats (normalize s)).map Rule.isValid = (schemaRule? formats s).map Rule.isValid ∧
      ((RuleBag.ofControl (normalize s)).rule? formats).map Rule.isValid =
        ((RuleBag.ofControl s).rule? formats).map Rule.isValid := by
  have ha : Alike formats s (normalize s) := alike_convert hd hs quiet_initial.late (convert_enoughLevels s .initial)
  exact ⟨ha.schema.symm, ha.control.symm⟩

-- A limit with its flag in the schema, and flags alone under `not` and in what a trigger asks for.
def flaggedLimits : Json :=
  .obj [("type", "number"), ("minimum", .num (.int 5 (by decide))), ("exclusiveMinimum", true),
    ("not", .obj [("exclusiveMaximum", false)]),
    ("dependencies", .obj [("a", .obj [("properties", .obj [("b", .obj [("exclusiveMaximum", true)])])])])]

theorem limitFlagged_flaggedLimits : LimitFlagged flaggedLimits := by
  have hflag : ∀ flag, LimitFlagged (.obj [("exclusiveMaximum", .bool flag)]) := fun flag =>
    .node (flagged_of_not_mem (by decide +revert) nofun nofun (by decide +revert)) (List.forall_mem_singleton.mpr nofun)
  have hasked : LimitFlagged (.obj [("properties", .obj [("b", .obj [("exclusiveMaximum", true)])])]) :=
    .node (flagged_of_not_mem (by decide) nofun nofun (by decide))
      (List.forall_mem_singleton.mpr (List.forall_mem_singleton.mpr (hflag true)))
  refine .node (flagged_of_not_mem (by decide) ?_ ?_ ?_) ?_
  · intro deps hd
    obtain rfl := Json.obj.inj (Option.some.inj hd)
    exact List.forall_mem_singleton.mpr rfl
  · intro t ht
    obtain rfl : Json.str "number" = t := Option.some.inj ht
    exact (by decide : "number" ∈ SchemaType.names)
  · exact List.forall_mem_cons.mpr ⟨fun v hv => Option.some.inj hv ▸ rfl, List.forall_mem_singleton.mpr nofun⟩
  · simp only [List.forall_mem_cons]
    exact ⟨nofun, nofun, nofun, List.forall_mem_singleton.mpr (hflag false), List.forall_mem_singleton.mpr hasked, nofun⟩

theorem rules_normalize_flaggedLimits : flaggedLimits.Distinct ∧ LimitFlagged flaggedLimits ∧
    (normalize flaggedLimits).member? "minimum" = none ∧
    (normalize flaggedLimits).member? "exclusiveMinimum" = flaggedLimits.member? "minimum" ∧
    (schemaRule? [] (normalize flaggedLimits)).map Rule.isValid = (schemaRule? [] flaggedLimits).map Rule.isValid ∧
    ((RuleBag.ofControl (normalize flaggedLimits)).rule? []).map Rule.isValid =
      ((RuleBag.ofControl flaggedLimits).rule? []).map Rule.isValid := by
  have hd : flaggedLimits.Distinct := by
    simp [flaggedLimits, Json.Distinct, Json.DistinctMembers, Dict.keys]
  exact ⟨hd, limitFlagged_flaggedLimits, rfl, rfl, rules_normalize [] hd limitFlagged_flaggedLimits⟩

end Convert

end FormModel
