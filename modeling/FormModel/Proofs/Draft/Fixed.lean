import FormModel.Proofs.Draft.Settle
import FormModel.Proofs.Json.Parts

/-!
A modern schema is left as it is.
-/

namespace FormModel.Draft

-- The drafts that a schema can have without any of their keywords in it: in drafts 1 and 2 properties are
-- required unless they say otherwise.
def Quiet (state : DraftState) : Prop := state.draft ≠ some 1 ∧ state.draft ≠ some 2 ∧ state.changed = false

-- Whether properties may be left out unless the schema says otherwise.
def Late (state : DraftState) : Prop := state.draft ≠ some 1 ∧ state.draft ≠ some 2

theorem Quiet.late {state : DraftState} (h : Quiet state) : Late state := ⟨h.1, h.2.1⟩

namespace Conversion

variable {r : Conversion} {limit flag exclusive : String} {node : Dict Json} {state : DraftState}

theorem contentEncoding_self (h : r.isSet "contentEncoding" = false) : r.contentEncoding = r := by
  simp [contentEncoding, h]

theorem disallow_self (h : r.isSet "disallow" = false) : r.disallow = r := by simp [disallow, h]

theorem dependencyNames_self
    (h : ∀ deps, r.get? "dependencies" = some (.obj deps) → ∀ e ∈ deps, e.2.isStr = false) : r.dependencyNames = r := by
  unfold dependencyNames
  split
  case h_1 deps hd =>
    rw [if_neg]
    simpa using h deps hd
  case h_2 => rfl

theorem maxDecimal_self (h : r.hasNumber "maxDecimal" = false) : r.maxDecimal = r := by
  unfold maxDecimal
  split
  case h_1 places hp =>
    obtain ⟨v, hv, hp⟩ := Option.bind_eq_some_iff.mp hp
    cases v <;> simp_all [hasNumber, Json.float?, Json.isNum]
  case h_2 => rfl

theorem divisibleBy_self (h : r.get? "divisibleBy" = none) : r.divisibleBy = r := by simp [divisibleBy, h]

theorem hasFlagOf_eq_false {key : String} {value : Bool} (h : r.hasFlag key = false) : r.hasFlagOf key value = false := by
  cases hv : r.get? key
  case none => simp [hasFlagOf, hv]
  case some v => cases v <;> simp_all [hasFlag, hasFlagOf, Json.isBool, Json.bool?]

theorem convertLimit_self (hf : r.hasFlag flag = false) (hx : r.hasFlag exclusive = false) :
    convertLimit limit flag exclusive r = r := by
  simp [convertLimit, canEqual, exclusiveFlag, hf, hx, hasFlagOf_eq_false hf, hasFlagOf_eq_false hx]

-- A property that says nothing of itself to the schema around it.
structure Unmarked (property : Json) : Prop where
  optional : marks "optional" property = false
  required : marks "required" property = false
  requires : (property.member? "requires").any Json.isTruthy = false

theorem map_str_filterMap {names : List Json} (h : ∀ n ∈ names, n.isStr = true) :
    (names.filterMap Json.string?).map Json.str = names := by
  induction names
  case nil => rfl
  case cons n names hi =>
    have ⟨hn, hrest⟩ := List.forall_mem_cons.mp h
    cases n <;> cases hn
    simp [Json.string?, hi hrest]

-- The names on the list are the list, if there are any.
theorem requiredNames_self (h : ∀ names, r.get? "required" = some (.arr names) →
    (∀ n ∈ names, n.isStr = true) ∨ ∀ n ∈ names, n.isStr = false) (hn : r.requiredNames.isEmpty = false) :
    r.put "required" (.arr (r.requiredNames.map .str)) = r := by
  cases hr : r.get? "required"
  case none => simp [requiredNames, hr] at hn
  case some v =>
    cases v
    case arr names =>
      have hnames : r.requiredNames = names.filterMap Json.string? := by simp [requiredNames, hr, Json.items?]
      rcases h names hr with hs | hs
      · rw [hnames, map_str_filterMap hs, put, Dict.insert_get? hr]
        rfl
      · have hnil : names.filterMap Json.string? = [] := List.filterMap_eq_nil_iff.mpr fun n hm => by
          have hn := hs n hm
          cases n <;> first | rfl | contradiction
        simp [hnames, hnil] at hn
    all_goals simp [requiredNames, hr, Json.items?] at hn

theorem properties_self (hq : Late r.state)
    (hu : ∀ declared, r.get? "properties" = some (.obj declared) → ∀ e ∈ declared, Unmarked e.2)
    (hr : ∀ declared names, r.get? "properties" = some (.obj declared) → r.get? "required" = some (.arr names) →
      (∀ n ∈ names, n.isStr = true) ∨ ∀ n ∈ names, n.isStr = false) : r.properties = r := by
  unfold Conversion.properties
  split
  case h_1 declared hp =>
    have hu := hu declared hp
    have ho : saysOptional declared r = false := by
      simpa [saysOptional, hq.1, hq.2] using fun key p he => (hu (key, p) he).optional
    have hm : saysRequired declared = false := by
      simpa [saysRequired] using fun key p he => (hu (key, p) he).required
    have hn : namesRequired declared r = r.requiredNames := by simp [namesRequired, ho, hm]
    have hc : collectRequired declared r = r := by
      simp only [collectRequired, ho, hm, hn, Bool.false_eq_true, if_false]
      split
      case isTrue => rfl
      case isFalse hne => exact requiredNames_self (fun names => hr declared names hp) (Bool.eq_false_iff.mpr hne)
    have ht : collectRequires declared r = r := by
      rw [collectRequires, if_neg]
      simpa using fun key p he => by simpa using (hu (key, p) he).requires
    simp [hc, ht]
  case h_2 => rfl

theorem flags_self (ho : r.hasFlag "optional" = false) (hr : r.hasFlag "required" = false)
    (hs : r.isSet "requires" = false) : r.flags = r := by
  simp [flags, ho, hr, hs]

theorem identifier_self (h : ∀ id, r.get? "id" = some (.str id) → Dict.has r.node "$id" = true) : r.identifier = r := by
  unfold identifier
  split
  case isTrue => rfl
  case isFalse hd =>
    split
    case h_1 id hi => exact absurd (h id hi) hd
    case h_2 => rfl

theorem schemaUri_self (hu : ∀ uri, r.get? "$schema" = some (.str uri) → isLegacyUri uri = false)
    (hc : r.state.changed = false) : r.schemaUri = r := by
  unfold schemaUri
  split
  case h_1 => rfl
  case h_2 uri hs =>
    obtain ⟨v, hv, hs⟩ := Option.bind_eq_some_iff.mp hs
    cases v <;> cases hs
    simp [hu _ hv, hc]

theorem types_self (hs : Settled r.node) (hc : r.state.changed = false) : r.types = r := by
  rw [types, if_neg (Bool.not_eq_true _ ▸ hasOddType_eq_false.mpr hs.type), schemaUri_self hs.uri hc]

-- A settled node is left as it is by all steps.
theorem finish_self (hs : Settled r.node) (hq : Quiet r.state)
    (hu : ∀ declared, r.get? "properties" = some (.obj declared) → ∀ e ∈ declared, Unmarked e.2) : r.finish = r := by
  have hf : ∀ key ∈ flagKeys, r.hasFlag key = false := hs.flagless
  rw [finish, disallow_self (hs.unset _ (by decide)), dependencyNames_self hs.dependencies,
    maxDecimal_self hs.maxDecimal, divisibleBy_self hs.divisibleBy, limits,
    convertLimit_self (hf _ (by decide)) (hf _ (by decide)), convertLimit_self (hf _ (by decide)) (hf _ (by decide)),
    properties_self hq.late hu hs.required,
    flags_self (hf _ (by decide)) (hf _ (by decide)) (hs.unset _ (by decide)), identifier_self hs.id,
    types_self hs hq.2.2]

theorem digit?_ne {c : Char} {n : Nat} (hn : 1 ≤ n) (hn' : n ≤ 4) (h : ¬('1' ≤ c ∧ c ≤ '4')) : Decimal.digit? c ≠ some n := by
  intro hd
  unfold Decimal.digit? at hd
  split at hd
  case isTrue =>
    refine h ?_
    have hd := Option.some.inj hd
    simp only [Char.le_def, UInt32.le_iff_toNat_le] at *
    change c.val.toNat - 48 = n at hd
    change 49 ≤ c.val.toNat ∧ c.val.toNat ≤ 52
    omega
  case isFalse => contradiction

-- Identifiers that name draft 1 or 2 are written anew.
theorem ofUri?_ne {uri : String} (h : isLegacyUri uri = false) : ofUri? uri ≠ some (some 1) ∧ ofUri? uri ≠ some (some 2) := by
  unfold ofUri?
  unfold isLegacyUri at h
  cases hd : digitsIn uri.toList
  case nil => simp
  case cons c rest =>
    rw [hd, List.any_cons, Bool.or_eq_false_iff] at h
    have hc : ¬('1' ≤ c ∧ c ≤ '4') := by simpa using h.1
    simp [digit?_ne (n := 1) (by decide) (by decide) hc, digit?_ne (n := 2) (by decide) (by decide) hc]

-- Only a draft is learnt at the start.
theorem start_eq (hu : ∀ uri, Dict.get? node "$schema" = some (.str uri) → ofUri? uri ≠ some (some 1) ∧ ofUri? uri ≠ some (some 2))
    (he : (Dict.get? node "contentEncoding").any Json.isTruthy = false) (hq : Late state) :
    ∃ draft, Late { state with draft } ∧ start node state = ⟨node, { state with draft }⟩ := by
  have he : ∀ state', contentEncoding ⟨node, state'⟩ = ⟨node, state'⟩ := fun _ => contentEncoding_self he
  unfold start readDraft
  split
  case h_1 draft hd =>
    obtain ⟨uri, hs, hd⟩ := Option.bind_eq_some_iff.mp hd
    obtain ⟨v, hv, hs⟩ := Option.bind_eq_some_iff.mp hs
    cases v <;> cases hs
    have ⟨h1, h2⟩ := hu _ hv
    rw [hd] at h1 h2
    exact ⟨draft, ⟨fun h => h1 (congrArg some h), fun h => h2 (congrArg some h)⟩, he _⟩
  case h_2 => exact ⟨state.draft, hq, he _⟩

theorem start_self (hs : Settled node) (hq : Quiet state) :
    ∃ state', Quiet state' ∧ start node state = ⟨node, state'⟩ := by
  have ⟨draft, hl, he⟩ := start_eq (fun _ hu => ofUri?_ne (hs.uri _ hu)) (hs.unset _ (by decide)) hq.late
  exact ⟨_, ⟨hl.1, hl.2, hq.2.2⟩, he⟩

theorem marks_eq_false {key : String} (h : (Dict.get? node key).any Json.isBool = false) : marks key (.obj node) = false := by
  cases hv : Dict.get? node key
  case none => simp [marks, Json.member?, Json.members?, hv]
  case some v => cases v <;> simp_all [marks, Json.member?, Json.members?, Json.isTrue, Json.isBool]

end Conversion

theorem Modern.unmarked {property : Json} (h : Modern property) : Conversion.Unmarked property := by
  cases h
  case scalar h => cases property <;> first | contradiction | exact ⟨rfl, rfl, rfl⟩
  case items => exact ⟨rfl, rfl, rfl⟩
  case node node hs _ =>
    exact ⟨Conversion.marks_eq_false (hs.flagless _ (by decide)), Conversion.marks_eq_false (hs.flagless _ (by decide)),
      hs.unset _ (by decide)⟩

theorem depth_le_of_mem_schemasAt {key : String} {value schema : Json} (h : schema ∈ schemasAt key value) :
    schema.depth ≤ value.depth := by
  cases value
  case obj members =>
    simp only [schemasAt] at h
    split at h
    case isTrue =>
      obtain ⟨e, he, rfl⟩ := List.mem_map.mp h
      exact Nat.le_succ_of_le (Json.depth_le_depthMembers he)
    case isFalse =>
      split at h
      case isTrue => exact List.mem_singleton.mp h ▸ Nat.le_refl _
      case isFalse => exact absurd h List.not_mem_nil
  case arr items =>
    simp only [schemasAt] at h
    split at h
    case isTrue => exact List.mem_singleton.mp h ▸ Nat.le_refl _
    case isFalse => exact absurd h List.not_mem_nil
  all_goals exact absurd h List.not_mem_nil

-- Converting a modern schema gives it back and changes nothing.
theorem convert_modern {schema : Json} {state : DraftState} {fuel : Nat} (h : Modern schema) (hf : schema.depth < fuel)
    (hq : Quiet state) : ∃ state', convert fuel schema state = some (schema, state') ∧ state'.changed = false := by
  induction h generalizing state fuel
  all_goals
    cases fuel
    case zero => contradiction
  case scalar.succ value h fuel =>
    refine ⟨state, ?_, hq.2.2⟩
    cases value <;> first | rfl | contradiction
  case items.succ items _ hi fuel =>
    have hc : convertItems (convert fuel) items state = some (items, state) := convertItems_self fun item hm => by
      have hd : item.depth < fuel := Nat.lt_of_le_of_lt (Json.depth_le_depthItems hm) (Nat.lt_of_succ_lt_succ hf)
      exact hi item hm hd hq
    exact ⟨state, by simp [convert, hc], hq.2.2⟩
  case node.succ node hs hm hi fuel =>
    have ⟨state', hq', hstart⟩ := Conversion.start_self hs hq
    have he : convertExtended (convert fuel) ⟨node, state'⟩ = some ⟨node, state'⟩ := by
      have hx := hs.extended
      cases hv : Dict.get? node "extends"
      case none => simp [convertExtended, Conversion.extended?, Conversion.get?, hv]
      case some v => cases v <;> simp_all [convertExtended, Conversion.extended?, Conversion.get?, Json.isContainer]
    have hu : ∀ declared, Conversion.get? ⟨node, state'⟩ "properties" = some (.obj declared) → ∀ e ∈ declared,
        Conversion.Unmarked e.2 := by
      intro declared hp e he
      exact (hm _ (Dict.mem_of_get? hp) e.2 (List.mem_map_of_mem he)).unmarked
    have hfin : Conversion.finish ⟨node, state'⟩ = ⟨node, state'⟩ := Conversion.finish_self hs hq' hu
    have hc : convertMembers (convert fuel) state' node = some (node, false) := convertMembers_self fun e he schema hsch => by
      have hd : schema.depth < fuel := Nat.lt_of_le_of_lt (depth_le_of_mem_schemasAt hsch)
        (Nat.lt_of_le_of_lt (Json.depth_le_depthMembers he) (Nat.lt_of_succ_lt_succ hf))
      exact hi e he schema hsch hd hq'
    exact ⟨{ state' with changed := state'.changed || false }, by simp [convert, hstart, he, hfin, hc], by simpa using hq'.2.2⟩

end FormModel.Draft
