import FormModel.Proofs.Draft.Everywhere

/-!
What normalizing reports.  Almost every step that rewrites a node says so.  Two do not: the keywords that the schema
around a node is taken to have read are dropped in silence, and so is what stands between the names of a list of
required names.  Where there is nothing of that kind, a schema for which no change is reported comes out as it went in.
-/

namespace FormModel.Draft

-- A node that holds nothing that is dropped in silence.
structure Overt (node : Dict Json) : Prop where
  requires : (node.get? "requires").any Json.isTruthy = false
  required : (node.get? "required").any Json.isBool = false
  -- Beside `properties`, a list of required names has nothing but names in it, or no names at all.
  names : ∀ properties names, node.get? "properties" = some (.obj properties) →
    node.get? "required" = some (.arr names) → (∀ n ∈ names, n.isStr = true) ∨ ∀ n ∈ names, n.isStr = false

theorem Settled.overt {node : Dict Json} (h : Settled node) : Overt node :=
  ⟨h.unset _ (by decide), h.flagless _ (by decide), h.required⟩

namespace Conversion

-- Whether a step leaves everything as it is if it does not report a change.
def Honest (step : Conversion → Conversion) : Prop := ∀ r, (step r).state.changed = false → step r = r

variable {r : Conversion} {f g : Conversion → Conversion} {limit flag exclusive : String} {declared : Dict Json}

namespace Honest

theorem comp (hg : Honest g) (hf : Honest f) : Honest fun r => g (f r) := by
  intro r h
  have he : g (f r) = f r := hg _ h
  have h : (f r).state.changed = false := he ▸ h
  exact he.trans (hf r h)

theorem contentEncoding : Honest contentEncoding := by
  intro r h
  unfold Conversion.contentEncoding at h ⊢
  split
  case isTrue hs =>
    rw [if_pos hs] at h
    split at h
    case h_1 => contradiction
    case h_2 => rfl
  case isFalse => rfl

theorem disallow : Honest disallow := by
  intro r h
  unfold Conversion.disallow at h ⊢
  split
  case isTrue hs =>
    rw [if_pos hs] at h
    dsimp only at h
    split at h <;> contradiction
  case isFalse => rfl

theorem dependencyNames : Honest dependencyNames := by
  intro r h
  unfold Conversion.dependencyNames at h ⊢
  split
  case h_1 deps hd =>
    rw [hd] at h
    dsimp only at h
    split
    case isTrue hs =>
      rw [if_pos hs] at h
      contradiction
    case isFalse => rfl
  case h_2 => rfl

theorem maxDecimal : Honest maxDecimal := by
  intro r h
  unfold Conversion.maxDecimal at h ⊢
  split
  case h_1 places hp =>
    rw [hp] at h
    dsimp only at h
    split at h <;> contradiction
  case h_2 => rfl

theorem divisibleBy : Honest divisibleBy := by
  intro r h
  unfold Conversion.divisibleBy at h ⊢
  split
  case h_1 divisor hd =>
    rw [hd] at h
    contradiction
  case h_2 => rfl

theorem canEqual : Honest (canEqual limit flag exclusive) := by
  intro r h
  unfold Conversion.canEqual at h ⊢
  repeat' split at h
  · contradiction
  · contradiction
  · simp_all

theorem exclusiveFlag : Honest (exclusiveFlag limit exclusive) := by
  intro r h
  unfold Conversion.exclusiveFlag at h ⊢
  repeat' split at h
  · contradiction
  · contradiction
  · simp_all

theorem convertLimit : Honest (convertLimit limit flag exclusive) := exclusiveFlag.comp canEqual

theorem limits : Honest limits := convertLimit.comp convertLimit

theorem identifier : Honest identifier := by
  intro r h
  unfold Conversion.identifier at h ⊢
  split
  case isTrue => rfl
  case isFalse hd =>
    rw [if_neg hd] at h
    split at h
    case h_1 => contradiction
    case h_2 => rfl

theorem schemaUri : Honest schemaUri := by
  intro r h
  unfold Conversion.schemaUri at h ⊢
  split
  case h_1 => rfl
  case h_2 uri hu =>
    rw [hu] at h
    dsimp only at h ⊢
    split
    case isTrue hl =>
      rw [if_pos hl] at h
      contradiction
    case isFalse hl =>
      rw [if_neg hl] at h
      split
      case isTrue hc =>
        rw [if_pos hc] at h
        exact absurd hc (Bool.eq_false_iff.mp h)
      case isFalse => rfl

theorem types : Honest types := by
  intro r h
  cases ho : r.hasOddType
  case true => exact absurd (changed_types ho) (Bool.eq_false_iff.mp h)
  case false =>
    have he : r.types = r.schemaUri := by simp [Conversion.types, ho]
    rw [he] at h ⊢
    exact schemaUri r h

end Honest

-- The names of required properties are gathered in silence if no property says that it is one of them.
theorem collectRequired_unreported (h : (collectRequired declared r).state.changed = false) :
    r.state.changed = false ∧
      collectRequired declared r = if r.requiredNames.isEmpty then r else r.put "required" (.arr (r.requiredNames.map .str)) := by
  unfold collectRequired at h ⊢
  cases ho : saysOptional declared r <;> cases hm : saysRequired declared
  case false.false =>
    have hn : namesRequired declared r = r.requiredNames := by simp [namesRequired, ho, hm]
    simp only [ho, hm, hn, Bool.false_eq_true, if_false] at h ⊢
    refine ⟨?_, trivial⟩
    split at h <;> exact h
  all_goals
    simp only [ho, hm, if_true, Bool.false_eq_true, if_false] at h
    split at h <;> contradiction

theorem properties_unreported (h : r.properties.state.changed = false) : r.state.changed = false ∧
    (Overt r.node → r.properties = r) := by
  unfold Conversion.properties at h ⊢
  split
  case h_2 hn =>
    split at h
    case h_1 declared hp => exact absurd hp (hn declared)
    case h_2 => exact ⟨h, fun _ => rfl⟩
  case h_1 declared hp =>
    rw [hp] at h
    dsimp only at h
    have hq : collectRequires declared (collectRequired declared r) = collectRequired declared r := by
      unfold collectRequires at h ⊢
      split
      case isTrue hs =>
        rw [if_pos hs] at h
        contradiction
      case isFalse => rfl
    rw [hq] at h ⊢
    have ⟨hr, he⟩ := collectRequired_unreported h
    refine ⟨hr, fun ho => he.trans ?_⟩
    split
    case isTrue => rfl
    case isFalse hn => exact requiredNames_self (fun names => ho.names declared names hp) (Bool.eq_false_iff.mpr hn)

theorem flags_unreported (h : r.flags.state.changed = false) : r.state.changed = false ∧ (Overt r.node → r.flags = r) := by
  cases ho : r.hasFlag "optional"
  case false =>
    refine ⟨?_, fun hn => flags_self ho hn.required hn.requires⟩
    unfold flags at h
    simp only [ho, Bool.false_eq_true, if_false] at h
    repeat' split at h
    all_goals exact h
  case true =>
    unfold flags at h
    simp only [ho, if_true] at h
    repeat' split at h
    all_goals contradiction

-- The steps before the properties are looked at.
theorem Honest.bounded : Honest fun r => r.disallow.dependencyNames.maxDecimal.divisibleBy.limits :=
  (((limits.comp divisibleBy).comp maxDecimal).comp dependencyNames).comp disallow

theorem finish_eq : r.finish = r.disallow.dependencyNames.maxDecimal.divisibleBy.limits.properties.flags.identifier.types := rfl

-- All steps together: without a report nothing is done to a node that holds nothing that is dropped in silence.
theorem finish_unreported (h : r.finish.state.changed = false) : r.state.changed = false ∧ (Overt r.node → r.finish = r) := by
  have hbounded := Honest.bounded r
  rw [finish_eq] at h ⊢
  dsimp only at hbounded
  generalize r.disallow.dependencyNames.maxDecimal.divisibleBy.limits = bounded at *
  have htypes := Honest.types _ h
  rw [htypes] at h ⊢
  have hidentifier := Honest.identifier _ h
  rw [hidentifier] at h ⊢
  have ⟨hp, hflags⟩ := flags_unreported h
  have ⟨hb, hproperties⟩ := properties_unreported hp
  obtain rfl := hbounded hb
  refine ⟨hb, fun ho => ?_⟩
  have hproperties := hproperties ho
  rw [hproperties] at hflags ⊢
  exact hflags ho

theorem changed_takeExtended {members : List Json} : (r.takeExtended members).state.changed = true := rfl

theorem start_unreported {node : Dict Json} {state : DraftState} (h : (start node state).state.changed = false) :
    (start node state).node = node := by
  rw [start, Honest.contentEncoding _ h, readDraft]
  split <;> rfl

end Conversion

open Conversion

variable {schema schema' : Json} {node : Dict Json} {state state' : DraftState} {fuel : Nat}

theorem Converted.eq_of_unreported {key : String} {value value' : Json}
    (h : Converted (convert fuel) state false key value value')
    (hi : ∀ inside ∈ schemasAt key value, ∀ inside' inner, convert fuel inside state = some (inside', inner) →
      inner.changed = false → inside' = inside) : value' = value := by
  cases h
  case schema inner hc hm hv => exact hi value hm _ inner hv (Bool.eq_false_iff.mpr fun ht => absurd (hc ht) nofun)
  case named hk members members' hm =>
    rw [eq_of_forall₂ hm fun e e' he ⟨hk', inner, hv, hc⟩ => ?_]
    have hin : e.2 ∈ schemasAt key (.obj members) := by simpa [schemasAt, hk] using ⟨e.1, he⟩
    exact Prod.ext hk' (hi e.2 hin _ inner hv (Bool.eq_false_iff.mpr fun ht => absurd (hc ht) nofun))
  case alone => rfl

-- A schema for which no change is reported is left as it is, if it holds nothing that is dropped in silence.
theorem convert_unreported (h : convert fuel schema state = some (schema', state')) (hc : state'.changed = false)
    (ho : ∀ node, SchemaNode node schema → Overt node) : schema' = schema := by
  induction fuel generalizing schema schema' state state'
  case zero => contradiction
  case succ fuel hi =>
    cases schema
    case obj node =>
      obtain ⟨r, members, changed, he, hm, rfl, hs⟩ := convert_obj h
      rw [hs] at hc
      obtain ⟨hfinish, rfl⟩ := Bool.or_eq_false_iff.mp hc
      have ⟨hr, hself⟩ := finish_unreported hfinish
      rcases convertExtended_cases he with ⟨_, rfl⟩ | ⟨_, _, _, rfl, _⟩
      case inr => exact absurd changed_takeExtended (Bool.eq_false_iff.mp hr)
      have hnode := start_unreported hr
      rw [hself (by rw [hnode]; exact ho node .root), hnode] at hm
      rw [eq_of_forall₂ (convertMembers_forall₂ hm) fun e e' hmem ⟨hk, hv⟩ => ?_]
      refine Prod.ext hk (hv.eq_of_unreported fun inside hin inside' inner hconv hch => ?_)
      exact hi hconv hch fun below hbelow => ho below (.inside hmem hin hbelow)
    case arr items =>
      obtain ⟨items', hitems, rfl⟩ := convert_arr h
      rw [eq_of_forall₂ (convertItems_forall₂ hitems).2 fun item item' hmem ⟨before, inner, hv, hin⟩ => ?_]
      exact hi hv (Bool.eq_false_iff.mpr fun ht => by simp [hin ht] at hc) fun node hn => ho node (.item hmem hn)
    all_goals exact convert_scalar rfl h

-- If normalizing reports no change, it has made none exactly if no schema of the document holds anything that is
-- dropped in silence.
theorem normalize_self_iff_of_unreported (h : (normalizeFrom .initial schema).2.changed = false) :
    (normalizeFrom .initial schema).1 = schema ↔ ∀ node, SchemaNode node schema → Overt node := by
  constructor
  case mp => exact fun hs node hn => ((normalizeFrom_self_iff.mp ⟨hs, h⟩).settled hn).overt
  case mpr => exact fun ho => convert_unreported (convert_enoughLevels schema .initial) h ho

-- A person whose name is required.
def plainSchema : Json :=
  .obj [("type", "object"), ("properties", .obj [("name", .obj [("type", "string")])]), ("required", .arr ["name"])]

theorem overt_plainSchema {node : Dict Json} (h : SchemaNode node plainSchema) : Overt node := by
  cases h
  case root => exact ⟨rfl, rfl, by simp [Dict.get?, Json.isStr]⟩
  case inside key value schema hs h hm =>
    simp only [List.mem_cons, Prod.mk.injEq, List.not_mem_nil, or_false] at hm
    -- Of the three keywords only `properties` has a schema in its value.
    rcases hm with ⟨rfl, rfl⟩ | ⟨rfl, rfl⟩ | ⟨rfl, rfl⟩
    case inr.inl =>
      obtain rfl := List.mem_singleton.mp hs
      cases h
      case root => exact ⟨rfl, rfl, by simp [Dict.get?]⟩
      case inside hs _ hm =>
        obtain ⟨rfl, rfl⟩ := Prod.mk.inj (List.mem_singleton.mp hm)
        contradiction
    all_goals contradiction

theorem normalize_self_plainSchema : (normalizeFrom .initial plainSchema).2.changed = false ∧
    (normalizeFrom .initial plainSchema).1 = plainSchema := by
  have hc : (normalizeFrom .initial plainSchema).2.changed = false := by with_unfolding_all rfl
  exact ⟨hc, (normalize_self_iff_of_unreported hc).mpr fun _ => overt_plainSchema⟩

-- A flag that a schema carries with no schema around it is dropped, and nothing is reported.
theorem required_flag_is_dropped_in_silence :
    (normalizeFrom .initial (.obj [("required", .bool true)])).2.changed = false ∧
      (normalizeFrom .initial (.obj [("required", .bool true)])).1 ≠ .obj [("required", .bool true)] := by
  have hn : normalizeFrom .initial (.obj [("required", .bool true)]) = (.obj [], ⟨none, false⟩) := by
    with_unfolding_all rfl
  rw [hn]
  exact ⟨rfl, nofun⟩

end FormModel.Draft
