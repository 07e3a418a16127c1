import FormModel.Proofs.Draft.Modern

/-!
The steps of converting a node, one after the other, take the keywords of earlier drafts away: each takes
away its own, and the later ones do not bring them back.  Only a schema that is merged into the node out of
its `type` comes after all of them.
-/

namespace FormModel.Draft

namespace Conversion

variable {r : Conversion} {key limit flag exclusive : String} {declared deps : Dict Json} {names : List String}

theorem isSet_contentEncoding : r.contentEncoding.isSet "contentEncoding" = false := by
  unfold contentEncoding
  split
  case isTrue h =>
    split
    case h_1 => simp [isSet]
    case h_2 hn => simp [isSet, hn] at h
  case isFalse h => simpa using h

theorem isSet_disallow : r.disallow.isSet "disallow" = false := by
  unfold disallow
  split
  case isTrue h =>
    dsimp only
    split <;> simp [isSet]
  case isFalse h => simpa using h

theorem hasFlag_canEqual :
    (canEqual limit flag exclusive r).hasFlag flag = false := by
  unfold canEqual
  repeat' split
  · simp [hasFlag]
  · simp [hasFlag]
  · simp_all

theorem hasFlag_exclusiveFlag : (exclusiveFlag limit exclusive r).hasFlag exclusive = false := by
  unfold exclusiveFlag
  split
  case isTrue h =>
    have ⟨v, hv, hn⟩ := (Option.any_eq_true ..).mp (Bool.and_eq_true_iff.mp h).1
    have hb : v.isBool = false := by cases v <;> simp_all [Json.isNum, Json.isBool]
    simp [makeExclusive, hv, hasFlag, hb]
  case isFalse =>
    split
    case isTrue => simp [hasFlag]
    case isFalse h => simpa using h

theorem hasFlag_convertLimit (limit flag exclusive : String) (r : Conversion) (h : flag ∉ [limit, exclusive]) :
    (convertLimit limit flag exclusive r).hasFlag flag = false ∧
      (convertLimit limit flag exclusive r).hasFlag exclusive = false := by
  have hf : (canEqual limit flag exclusive r).hasFlag flag = false := hasFlag_canEqual
  refine ⟨?_, hasFlag_exclusiveFlag⟩
  rw [hasFlag] at hf ⊢
  rwa [convertLimit, get?_exclusiveFlag h]

theorem hasNumber_maxDecimal : r.maxDecimal.hasNumber "maxDecimal" = false := by
  unfold maxDecimal
  split
  case h_1 =>
    dsimp only
    split <;> simp [hasNumber]
  case h_2 hn =>
    cases hv : r.get? "maxDecimal"
    case none => simp [hasNumber, hv]
    case some v => cases v <;> simp_all [hasNumber, Json.isNum, Json.float?]

theorem get?_divisibleBy_self : r.divisibleBy.get? "divisibleBy" = none := by
  unfold divisibleBy
  split <;> simp_all

theorem not_isStr_nameList (v : Json) : (nameList v).isStr = false := by
  unfold nameList
  split
  case isTrue => rfl
  case isFalse h => simpa using h

theorem not_isStr_dependencyNames (h : r.dependencyNames.get? "dependencies" = some (.obj deps)) :
    ∀ e ∈ deps, e.2.isStr = false := by
  unfold dependencyNames at h
  split at h
  case h_1 deps' hd =>
    split at h
    case isTrue =>
      simp only [get?_touch, get?_put, if_true, Option.some.injEq, Json.obj.injEq] at h
      subst h
      intro e he
      obtain ⟨e', _, rfl⟩ := List.mem_map.mp he
      exact not_isStr_nameList _
    case isFalse hs =>
      rw [hd] at h
      obtain rfl := Json.obj.inj (Option.some.inj h)
      simpa using hs
  case h_2 hn => exact absurd h (hn deps)

theorem not_isStr_properties (h : ∀ deps, r.get? "dependencies" = some (.obj deps) → ∀ e ∈ deps, e.2.isStr = false)
    (hd : r.properties.get? "dependencies" = some (.obj deps)) : ∀ e ∈ deps, e.2.isStr = false := by
  unfold Conversion.properties at hd
  split at hd
  case h_1 declared _ =>
    unfold collectRequires at hd
    split at hd
    case isTrue =>
      simp only [get?_assume, get?_touch, get?_put, if_true, Option.some.injEq, Json.obj.injEq] at hd
      subst hd
      intro e he
      rcases mem_addRequires he with he | ⟨_, _, v, _, he⟩
      case inl =>
        have ⟨deps, hd, he⟩ := exists_of_mem_members he
        exact h deps (by simpa using hd) e he
      case inr => exact he ▸ not_isStr_nameList v
    case isFalse => exact h deps (by simpa using hd)
  case h_2 => exact h deps hd

theorem mem_addNames {test : Json → Bool} {name : String} (h : name ∈ names) : name ∈ addNames test declared names := by
  induction declared generalizing names
  case nil => exact h
  case cons p declared hi =>
    refine hi ?_
    dsimp only
    split
    case isTrue =>
      unfold addName
      split
      case isTrue => exact h
      case isFalse => exact List.mem_append_left _ h
    case isFalse => exact h

theorem mem_namesRequired {name : String} (h : name ∈ r.requiredNames) : name ∈ namesRequired declared r := by
  unfold namesRequired
  dsimp only
  repeat' split
  all_goals first | exact h | exact mem_addNames h | exact mem_addNames (mem_addNames h)

-- If no names are required, there are none on the list.
theorem names_collectRequired {names : List Json}
    (h : (collectRequired declared r).get? "required" = some (.arr names)) :
    (∀ n ∈ names, n.isStr = true) ∨ ∀ n ∈ names, n.isStr = false := by
  unfold collectRequired at h
  dsimp only at h
  split at h
  case isTrue he =>
    have hr : r.get? "required" = some (.arr names) := by
      split at h <;> split at h <;> exact h
    refine .inr fun n hn => ?_
    cases n
    case str s =>
      have hs : s ∈ r.requiredNames := by simpa [requiredNames, hr, Json.items?] using ⟨_, hn, rfl⟩
      rw [List.isEmpty_iff] at he
      exact absurd (he ▸ mem_namesRequired hs) (List.not_mem_nil)
    all_goals rfl
  case isFalse =>
    refine .inl fun n hn => ?_
    rw [get?_put, if_pos rfl, Option.some.injEq, Json.arr.injEq] at h
    subst h
    obtain ⟨_, _, rfl⟩ := List.mem_map.mp hn
    rfl

theorem names_properties {names : List Json} (hp : r.get? "properties" = some (.obj declared))
    (hr : r.properties.get? "required" = some (.arr names)) :
    (∀ n ∈ names, n.isStr = true) ∨ ∀ n ∈ names, n.isStr = false := by
  rw [Conversion.properties, hp] at hr
  exact names_collectRequired (by simpa using hr)

theorem get?_flags_required : r.flags.get? "required" = if r.hasFlag "required" then none else r.get? "required" := by
  unfold flags
  dsimp only
  repeat' split
  all_goals simp_all [hasFlag]

theorem hasFlag_flags : r.flags.hasFlag "optional" = false ∧ r.flags.hasFlag "required" = false ∧
    r.flags.isSet "requires" = false := by
  unfold flags
  dsimp only
  repeat' split
  all_goals simp_all [hasFlag, isSet]

theorem has_identifier {id : String} (h : r.identifier.get? "id" = some (.str id)) :
    Dict.has r.identifier.node "$id" = true := by
  unfold identifier at h ⊢
  split at h
  case isTrue hd => rwa [if_pos hd]
  case isFalse hd =>
    split at h
    case h_1 => simp at h
    case h_2 hn => exact absurd h (hn id)

section Prepare

variable (r)

theorem not_isSet_prepare (he : r.isSet "contentEncoding" = false) :
    ∀ key ∈ setKeys, r.prepare.isSet key = false := by
  have hd : r.disallow.isSet "disallow" = false := isSet_disallow
  have ⟨_, _, hr⟩ := hasFlag_flags (r := r.disallow.dependencyNames.maxDecimal.divisibleBy.limits.properties)
  simp only [setKeys, List.forall_mem_cons, isSet] at he hd hr ⊢
  refine ⟨?_, ?_, ?_, by simp⟩
  · simpa [prepare, limits] using he
  · simpa [prepare, limits] using hd
  · simpa [prepare] using hr

theorem not_hasFlag_prepare : ∀ key ∈ flagKeys, r.prepare.hasFlag key = false := by
  let undivided := r.disallow.dependencyNames.maxDecimal.divisibleBy
  let bounded := convertLimit "minimum" "minimumCanEqual" "exclusiveMinimum" undivided
  have ⟨hl, hlx⟩ := hasFlag_convertLimit "minimum" "minimumCanEqual" "exclusiveMinimum" undivided (by decide)
  have ⟨hu, hux⟩ := hasFlag_convertLimit "maximum" "maximumCanEqual" "exclusiveMaximum" bounded (by decide)
  have ⟨ho, hr, _⟩ := hasFlag_flags (r := undivided.limits.properties)
  simp only [flagKeys, List.forall_mem_cons, hasFlag] at hl hlx hu hux ho hr ⊢
  refine ⟨?_, ?_, ?_, ?_, ?_, ?_, by simp⟩
  · simpa [prepare, limits] using hl
  · simpa [prepare, limits] using hlx
  · simpa [prepare, limits] using hu
  · simpa [prepare, limits] using hux
  · simpa [prepare] using ho
  · simpa [prepare] using hr

theorem not_isStr_prepare (h : r.prepare.get? "dependencies" = some (.obj deps)) : ∀ e ∈ deps, e.2.isStr = false := by
  have hd : r.disallow.dependencyNames.maxDecimal.divisibleBy.limits.properties.get? "dependencies" =
      some (.obj deps) := by simpa [prepare] using h
  exact not_isStr_properties (fun _ hd => not_isStr_dependencyNames (by simpa [limits] using hd)) hd

theorem names_prepare {names : List Json} (hp : r.prepare.get? "properties" = some (.obj declared))
    (hr : r.prepare.get? "required" = some (.arr names)) :
    (∀ n ∈ names, n.isStr = true) ∨ ∀ n ∈ names, n.isStr = false := by
  let bounded := r.disallow.dependencyNames.maxDecimal.divisibleBy.limits
  have hp' : bounded.get? "properties" = some (.obj declared) := by simpa [prepare] using hp
  have hr' : bounded.properties.flags.get? "required" = some (.arr names) := by simpa [prepare] using hr
  rw [get?_flags_required] at hr'
  split at hr'
  case isTrue => exact nomatch hr'
  case isFalse => exact names_properties hp' hr'

end Prepare

-- The keywords that the steps take away one after the other are gone after all of them.
theorem prepared_prepare (he : r.isSet "contentEncoding" = false)
    (hx : (r.get? "extends").any Json.isContainer = false) : Prepared r.prepare.node := by
  have hset := not_isSet_prepare r he
  have hflag := not_hasFlag_prepare r
  have hext : (r.prepare.get? "extends").any Json.isContainer = false := by simpa [prepare, limits] using hx
  have hdep : ∀ deps, r.prepare.get? "dependencies" = some (.obj deps) → ∀ e ∈ deps, e.2.isStr = false :=
    fun _ => not_isStr_prepare r
  have hmax : r.prepare.hasNumber "maxDecimal" = false := by
    simpa [prepare, limits, hasNumber] using hasNumber_maxDecimal (r := r.disallow.dependencyNames)
  have hdiv : r.prepare.get? "divisibleBy" = none := by
    simpa [prepare, limits] using get?_divisibleBy_self (r := r.disallow.dependencyNames.maxDecimal)
  have hreq : ∀ declared names, r.prepare.get? "properties" = some (.obj declared) →
      r.prepare.get? "required" = some (.arr names) → (∀ n ∈ names, n.isStr = true) ∨ ∀ n ∈ names, n.isStr = false :=
    fun _ _ => names_prepare r
  have hid : ∀ id, r.prepare.get? "id" = some (.str id) → Dict.has r.prepare.node "$id" = true :=
    fun _ => has_identifier
  -- Only what is known of the prepared node counts, not how it came about.
  generalize r.prepare = q at *
  exact ⟨hset, hflag, hext, hdep, hmax, hdiv, hreq, hid⟩

section Types

variable {node node' : Dict Json} {t : Json}

theorem hasOddType_eq_false : r.hasOddType = false ↔
    ∀ t, r.get? "type" = some t → t.isTruthy = false ∨ NamesStandardTypes t := by
  unfold hasOddType
  split
  case h_1 hn => simp [hn]
  case h_2 hn => simp [hn, Json.isTruthy]
  case h_3 types ht => simp [ht, Json.isTruthy, NamesStandardTypes]
  case h_4 t hnull harr ht =>
    have hs : isStandardType t = true ↔ NamesStandardTypes t := by
      cases t
      case arr types => exact absurd rfl (harr types)
      all_goals simp [isStandardType, NamesStandardTypes, Json.string?]
    cases hb : t.isTruthy <;> simp [ht, hb, hs]

theorem not_isLegacyUri_schemaUri {uri : String} (h : r.schemaUri.get? "$schema" = some (.str uri)) :
    isLegacyUri uri = false := by
  unfold schemaUri at h
  split at h
  case h_1 hn => simp [h, Json.string?] at hn
  case h_2 uri' hu =>
    split at h
    case isTrue =>
      simp only [get?_touch, get?_put, if_true, Option.some.injEq, Json.str.injEq] at h
      subst h
      decide
    case isFalse hl =>
      split at h
      case isTrue => simp at h
      case isFalse =>
        rw [h] at hu
        obtain rfl := Option.some.inj hu
        simpa using hl

theorem declaredType_congr (h : node'.get? "type" = node.get? "type") : declaredType node' = declaredType node := by
  unfold declaredType
  rw [h]

theorem Retyped.settled (h : Retyped node node') (hp : Prepared node)
    (hu : ∀ uri, node.get? "$schema" = some (.str uri) → isLegacyUri uri = false)
    (hn : (declaredType node).isObj = false) : Settled node' := by
  cases h
  case dropped =>
    refine ⟨hp.congr_off fun key hk => ?_, fun t ht => ?_, fun uri hs => hu uri ?_⟩
    · rw [Dict.get?_erase, if_neg fun hk' => hk (by simp [← hk'])]
    · simp [Dict.get?_erase] at ht
    · simpa [Dict.get?_erase] using hs
  case named t ht =>
    refine ⟨hp.congr_off fun key hk => ?_, fun t' ht' => .inr ?_, fun uri hs => hu uri ?_⟩
    · rw [Dict.get?_insert, if_neg fun hk' => hk (by simp [← hk'])]
    · simp only [Dict.get?_insert, if_true, Option.some.injEq] at ht'
      exact ht' ▸ ht
    · simpa [Dict.get?_insert] using hs
  case alternatives types _ _ =>
    have hg : ∀ key, key ∉ ["anyOf", "default"] → Dict.get? (("anyOf", Json.arr (types.map (typeBranch node))) ::
        ((node.get? "default").map (Prod.mk "default")).toList) key = none := by
      intro key hk
      simp only [List.mem_cons, List.not_mem_nil, or_false, not_or] at hk
      cases node.get? "default" <;> simp [Dict.get?, Ne.symm hk.1, Ne.symm hk.2]
    exact settled_of_get?_eq_none fun key hk => hg key ((by decide : ∀ key ∈ "dependencies" :: "properties" ::
      "type" :: "$schema" :: preparedKeys, key ∉ ["anyOf", "default"]) key hk)
  case hoisted schema hs => simp [hs, Json.isObj] at hn

-- With `type` done last, nothing is left to do, unless a schema has been merged into the node.
theorem settled_types (hp : Prepared r.node) (hn : r.hasOddType = true → (declaredType r.node).isObj = false) :
    Settled r.types.node := by
  unfold types
  split
  case isTrue ho =>
    have ht : Dict.get? r.touch.schemaUri.node "type" = Dict.get? r.node "type" :=
      get?_schemaUri (r := r.touch) (by decide)
    have hp' : Prepared r.touch.schemaUri.node := hp.congr_off fun key hk =>
      get?_schemaUri (r := r.touch) fun hm => hk (List.mem_cons_of_mem _ hm)
    exact (retyped_convertTypes _).settled hp' (fun _ => not_isLegacyUri_schemaUri)
      (declaredType_congr ht ▸ hn ho)
  case isFalse ho =>
    have ht : r.schemaUri.get? "type" = r.get? "type" := get?_schemaUri (by decide)
    refine ⟨hp.congr_off fun key hk => get?_schemaUri fun hm => hk (List.mem_cons_of_mem _ hm), ?_,
      fun _ => not_isLegacyUri_schemaUri⟩
    exact fun t h => hasOddType_eq_false.mp (Bool.eq_false_iff.mpr ho) t (ht ▸ h)

end Types

end Conversion

end FormModel.Draft
