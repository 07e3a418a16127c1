import FormModel.Proofs.Draft.Convert
import FormModel.Proofs.Draft.Fixed

/-!
Limits that are flagged as exclusive.  Where a schema says nothing else in the words of earlier drafts,
converting it moves the limits or drops the flags, and leaves the rest as it is.
-/

namespace FormModel.Draft

-- The keywords of limits that can be flags.
def exclusiveKeys : List String := ["exclusiveMinimum", "exclusiveMaximum"]

-- The node without the flags of its limits.
def unflagged (node : Dict Json) : Dict Json :=
  node.filter fun e => !(exclusiveKeys.contains e.1 && (node.get? e.1).any Json.isBool)

-- A node that says nothing in the words of earlier drafts but that limits are exclusive.
structure Flagged (node : Dict Json) : Prop where
  prepared : Prepared (unflagged node)
  type : ∀ t, node.get? "type" = some t → t.isTruthy = false ∨ NamesStandardTypes t
  -- In drafts 1 and 2 properties are required unless they say otherwise.
  draft : ∀ uri, node.get? "$schema" = some (.str uri) → ofUri? uri ≠ some (some 1) ∧ ofUri? uri ≠ some (some 2)
  limits : ∀ key ∈ ["minimum", "maximum"], ∀ v, node.get? key = some v → v.isNum = true

-- A schema that says nothing in the words of earlier drafts but that limits are exclusive, itself and wherever it
-- has schemas in it.
inductive LimitFlagged : Json → Prop where
  | scalar {value : Json} (h : value.isContainer = false) : LimitFlagged value
  | items {items : List Json} (h : ∀ item ∈ items, LimitFlagged item) : LimitFlagged (.arr items)
  | node {node : Dict Json} (hs : Flagged node) (hi : ∀ e ∈ node, ∀ schema ∈ schemasAt e.1 e.2, LimitFlagged schema) :
    LimitFlagged (.obj node)

-- A limit and its exclusive form, before and after the node is said in draft 6.
inductive Respelled : (limit exclusive limit' exclusive' : Option Json) → Prop where
  | kept {limit exclusive : Option Json} (h : exclusive.any Json.isBool = false) : Respelled limit exclusive limit exclusive
  | dropped {limit : Option Json} {flag : Bool} (h : flag = true → limit = none) : Respelled limit (some (.bool flag)) limit none
  | moved {bound : Json} (h : bound.isNum = true) : Respelled (some bound) (some (.bool true)) none (some bound)

-- The keywords that are written anew if limits are flagged.
def rewrittenKeys : List String :=
  ["minimum", "exclusiveMinimum", "maximum", "exclusiveMaximum", "$schema", "description"]

-- A node said in draft 6, of which the other keywords are related one by one.
structure Rewritten (R : String → Json → Json → Prop) (node node' : Dict Json) : Prop where
  nodup : (Dict.keys node').Nodup
  minimum : Respelled (node.get? "minimum") (node.get? "exclusiveMinimum") (node'.get? "minimum") (node'.get? "exclusiveMinimum")
  maximum : Respelled (node.get? "maximum") (node.get? "exclusiveMaximum") (node'.get? "maximum") (node'.get? "exclusiveMaximum")
  other : ∀ key ∉ rewrittenKeys, Option.Rel (R key) (node.get? key) (node'.get? key)

theorem Rewritten.imp {R R' : String → Json → Json → Prop} {node node' : Dict Json} (h : Rewritten R node node')
    (hi : ∀ key v v', node.get? key = some v → R key v v' → R' key v v') : Rewritten R' node node' where
  nodup := h.nodup
  minimum := h.minimum
  maximum := h.maximum
  other key hk := by
    have hrel := h.other key hk
    have hi := hi key
    revert hrel hi
    generalize Dict.get? node key = v
    generalize Dict.get? node' key = v'
    rintro (hr | _) hi
    · exact .some (hi _ _ rfl hr)
    · exact .none

section Flagged

variable {node : Dict Json} {key : String} {property : Json}

theorem get?_unflagged (h : key ∉ exclusiveKeys) : Dict.get? (unflagged node) key = node.get? key :=
  Dict.get?_filter (f := fun k => !(exclusiveKeys.contains k && (node.get? k).any Json.isBool)) (by simp [h])

theorem flagless_unflagged (h : key ∈ exclusiveKeys) : (Dict.get? (unflagged node) key).any Json.isBool = false := by
  cases hb : (Dict.get? node key).any Json.isBool
  case false =>
    rwa [unflagged, Dict.get?_filter (f := fun k => !(exclusiveKeys.contains k && (node.get? k).any Json.isBool)) (by simp [hb])]
  case true =>
    have hn : Dict.get? (unflagged node) key = none := by
      rw [Dict.get?_eq_none, unflagged, Dict.keys_filter (f := fun k => !(exclusiveKeys.contains k && (node.get? k).any Json.isBool))]
      simp [List.mem_filter, h, hb]
    rw [hn]
    rfl

-- A node that has none of the keywords that have changed but the flags.
theorem flagged_of_not_mem (h : ∀ key ∈ "$schema" :: preparedKeys, key ∈ exclusiveKeys ∨ key ∉ Dict.keys node)
    (hd : ∀ deps, node.get? "dependencies" = some (.obj deps) → ∀ e ∈ deps, e.2.isStr = false)
    (ht : ∀ t, node.get? "type" = some t → NamesStandardTypes t)
    (hl : ∀ key ∈ ["minimum", "maximum"], ∀ v, node.get? key = some v → v.isNum = true) : Flagged node := by
  have hn : ∀ key ∈ "$schema" :: preparedKeys, key ∉ exclusiveKeys → node.get? key = none := fun key hk hx =>
    Dict.get?_eq_none.mpr ((h key hk).resolve_left hx)
  have hg : ∀ key ∈ preparedKeys, key ∉ exclusiveKeys → Dict.get? (unflagged node) key = none := fun key hk hx =>
    (get?_unflagged hx).trans (hn key (List.mem_cons_of_mem _ hk) hx)
  refine ⟨?_, fun t h => .inr (ht t h), ?_, hl⟩
  case refine_2 => simp [hn "$schema" (by decide) (by decide)]
  case refine_1 =>
    refine ⟨fun key hk => ?_, fun key hk => ?_, ?_, ?_, ?_, ?_, ?_, ?_⟩
    · rw [hg key ((by decide : ∀ key ∈ setKeys, key ∈ preparedKeys) key hk) ((by decide : ∀ key ∈ setKeys, key ∉ exclusiveKeys) key hk)]
      rfl
    · by_cases hx : key ∈ exclusiveKeys
      case pos => exact flagless_unflagged hx
      case neg =>
        rw [hg key ((by decide : ∀ key ∈ flagKeys, key ∈ preparedKeys) key hk) hx]
        rfl
    · simp [hg "extends" (by decide) (by decide)]
    · have hg : Dict.get? (unflagged node) "dependencies" = node.get? "dependencies" := get?_unflagged (by decide)
      exact hg ▸ hd
    · simp [hg "maxDecimal" (by decide) (by decide)]
    · exact hg "divisibleBy" (by decide) (by decide)
    · simp [hg "required" (by decide) (by decide)]
    · simp [hg "id" (by decide) (by decide)]

theorem Flagged.flagless (hs : Flagged node) (hk : key ∈ flagKeys) (h : key ∉ exclusiveKeys) :
    (node.get? key).any Json.isBool = false := get?_unflagged h ▸ hs.prepared.flagless key hk

theorem Flagged.unset (hs : Flagged node) (hk : key ∈ setKeys) : (node.get? key).any Json.isTruthy = false :=
  get?_unflagged ((by decide : ∀ key ∈ setKeys, key ∉ exclusiveKeys) key hk) ▸ hs.prepared.unset key hk

theorem LimitFlagged.unmarked (h : LimitFlagged property) : Conversion.Unmarked property := by
  cases h
  case scalar h => cases property <;> first | contradiction | exact ⟨rfl, rfl, rfl⟩
  case items => exact ⟨rfl, rfl, rfl⟩
  case node node hs _ =>
    exact ⟨Conversion.marks_eq_false (hs.flagless (by decide) (by decide)),
      Conversion.marks_eq_false (hs.flagless (by decide) (by decide)), hs.unset (by decide)⟩

end Flagged

namespace Conversion

variable {r : Conversion} {limit flag exclusive key : String} {value : Json}

theorem respelled_exclusiveFlag (exclusive : String) (hne : limit ≠ exclusive) (hn : ∀ v, r.get? limit = some v → v.isNum = true) :
    Respelled (r.get? limit) (r.get? exclusive) ((exclusiveFlag limit exclusive r).get? limit)
      ((exclusiveFlag limit exclusive r).get? exclusive) := by
  unfold exclusiveFlag
  split
  case isTrue h =>
    have ⟨hl, hx⟩ := Bool.and_eq_true_iff.mp h
    obtain ⟨bound, hl, hb⟩ := (Option.any_eq_true ..).mp hl
    obtain ⟨v, hx, hv⟩ := (Option.any_eq_true ..).mp hx
    cases v <;> cases eq_of_beq hv
    simpa [makeExclusive, hl, hx, hne] using Respelled.moved hb
  case isFalse hnot =>
    split
    case isTrue h =>
      obtain ⟨v, hx, hv⟩ := (Option.any_eq_true ..).mp h
      obtain ⟨flag, rfl⟩ : ∃ flag, v = .bool flag := by cases v <;> first | exact ⟨_, rfl⟩ | contradiction
      have hf : flag = true → r.get? limit = none := by
        rintro rfl
        cases hl : r.get? limit
        case none => rfl
        case some bound => simp [hasNumber, hasFlagOf, hl, hn bound hl, hx, Json.bool?] at hnot
      simpa [hx, hne] using Respelled.dropped hf
    case isFalse h => exact .kept (Bool.eq_false_iff.mpr h)

theorem convertLimit_eq_exclusiveFlag (hf : r.hasFlag flag = false) :
    convertLimit limit flag exclusive r = exclusiveFlag limit exclusive r := by
  simp [convertLimit, canEqual, hf, hasFlagOf_eq_false hf]

theorem draft_exclusiveFlag : (exclusiveFlag limit exclusive r).state.draft = r.state.draft := by
  unfold exclusiveFlag makeExclusive
  repeat' split
  all_goals rfl

theorem nodup_drop (h : (Dict.keys r.node).Nodup) : (Dict.keys (r.drop key).node).Nodup := by
  rw [drop, withNode, Dict.erase, Dict.keys_filter (f := (· != key))]
  exact h.filter _

theorem nodup_put (h : (Dict.keys r.node).Nodup) : (Dict.keys (r.put key value).node).Nodup := Dict.nodup_keys_insert value h

theorem nodup_exclusiveFlag (h : (Dict.keys r.node).Nodup) : (Dict.keys (exclusiveFlag limit exclusive r).node).Nodup := by
  unfold exclusiveFlag makeExclusive
  repeat' split
  · exact nodup_put (nodup_drop h)
  · exact h
  · exact nodup_drop h
  · exact h

theorem late_schemaUri (h : Late r.state) : Late r.schemaUri.state := by
  unfold schemaUri
  dsimp only
  repeat' split
  all_goals exact h

theorem nodup_schemaUri (h : (Dict.keys r.node).Nodup) : (Dict.keys r.schemaUri.node).Nodup := by
  unfold schemaUri
  dsimp only
  repeat' split
  · exact h
  · exact nodup_put h
  all_goals first | exact nodup_put (nodup_drop h) | exact h

theorem limits_eq_exclusiveFlag (hs : Flagged r.node) : r.limits =
    exclusiveFlag "maximum" "exclusiveMaximum" (exclusiveFlag "minimum" "exclusiveMinimum" r) := by
  have hf : r.hasFlag "minimumCanEqual" = false := hs.flagless (by decide) (by decide)
  have hf' : (exclusiveFlag "minimum" "exclusiveMinimum" r).hasFlag "maximumCanEqual" = false := by
    rw [hasFlag, get?_exclusiveFlag (by decide)]
    exact hs.flagless (by decide) (by decide)
  rw [limits, convertLimit_eq_exclusiveFlag hf, convertLimit_eq_exclusiveFlag hf']

theorem late_limits (hs : Flagged r.node) (hq : Late r.state) : Late r.limits.state := by
  rwa [Late, limits_eq_exclusiveFlag hs, draft_exclusiveFlag, draft_exclusiveFlag]

theorem nodup_limits (hs : Flagged r.node) (hd : (Dict.keys r.node).Nodup) : (Dict.keys r.limits.node).Nodup :=
  limits_eq_exclusiveFlag hs ▸ nodup_exclusiveFlag (nodup_exclusiveFlag hd)

theorem get?_limits (hs : Flagged r.node) (hk : key ∉ ["minimum", "exclusiveMinimum", "maximum", "exclusiveMaximum"]) :
    r.limits.get? key = r.get? key := by
  simp only [List.mem_cons, List.not_mem_nil, or_false, not_or] at hk
  simp [limits_eq_exclusiveFlag hs, hk]

theorem respelled_limits (hs : Flagged r.node) :
    Respelled (r.get? "minimum") (r.get? "exclusiveMinimum") (r.limits.get? "minimum") (r.limits.get? "exclusiveMinimum") ∧
    Respelled (r.get? "maximum") (r.get? "exclusiveMaximum") (r.limits.get? "maximum") (r.limits.get? "exclusiveMaximum") := by
  have hg : ∀ key ∉ ["minimum", "exclusiveMinimum"], (exclusiveFlag "minimum" "exclusiveMinimum" r).get? key = r.get? key :=
    fun _ => get?_exclusiveFlag
  have hmin := respelled_exclusiveFlag "exclusiveMinimum" (by decide) (hs.limits "minimum" (by decide))
  have hn : ∀ v, (exclusiveFlag "minimum" "exclusiveMinimum" r).get? "maximum" = some v → v.isNum = true := by
    rw [hg "maximum" (by decide)]
    exact hs.limits "maximum" (by decide)
  have hmax := respelled_exclusiveFlag "exclusiveMaximum" (by decide) hn
  rw [hg "maximum" (by decide), hg "exclusiveMaximum" (by decide)] at hmax
  have hgmin : ∀ key ∉ ["maximum", "exclusiveMaximum"], r.limits.get? key =
      (exclusiveFlag "minimum" "exclusiveMinimum" r).get? key := fun _ hk => by
    rw [limits_eq_exclusiveFlag hs, get?_exclusiveFlag hk]
  rw [hgmin "minimum" (by decide), hgmin "exclusiveMinimum" (by decide), limits_eq_exclusiveFlag hs]
  exact ⟨hmin, hmax⟩

-- Of all steps, only the ones for limits and for `$schema` do something.
theorem finish_eq_limits (hs : Flagged r.node) (hq : Late r.state)
    (hu : ∀ declared, r.get? "properties" = some (.obj declared) → ∀ e ∈ declared, Unmarked e.2) :
    r.finish = r.limits.schemaUri := by
  have hp := hs.prepared
  have hg : ∀ key, key ∉ exclusiveKeys → Dict.get? (unflagged r.node) key = r.get? key := fun _ => get?_unflagged
  have hl : ∀ key, key ∉ ["minimum", "exclusiveMinimum", "maximum", "exclusiveMaximum"] →
      Dict.get? (unflagged r.node) key = r.limits.get? key := by
    intro key hk
    rw [get?_limits hs hk, hg]
    exact fun h => hk ((by decide : ∀ key ∈ exclusiveKeys, key ∈ _) key h)
  have hdeps := hg "dependencies" (by decide) ▸ hp.dependencies
  have hmax := hg "maxDecimal" (by decide) ▸ hp.maxDecimal
  have hdiv := hg "divisibleBy" (by decide) ▸ hp.divisibleBy
  have hgl : ∀ key ∉ ["minimum", "exclusiveMinimum", "maximum", "exclusiveMaximum"], r.limits.get? key = r.get? key :=
    fun _ => get?_limits hs
  have hu := hgl "properties" (by decide) ▸ hu
  have hr := hl "required" (by decide) ▸ hl "properties" (by decide) ▸ hp.required
  have hf : ∀ key ∈ ["optional", "required"], r.limits.hasFlag key = false := by
    intro key hk
    rw [hasFlag, ← hl key ((by decide : ∀ key ∈ ["optional", "required"], key ∉ _) key hk)]
    exact hp.flagless key ((by decide : ∀ key ∈ ["optional", "required"], key ∈ flagKeys) key hk)
  have hreq : r.limits.isSet "requires" = false := by
    rw [isSet, ← hl "requires" (by decide)]
    exact hp.unset _ (by decide)
  have hid : ∀ id, r.limits.get? "id" = some (.str id) → Dict.has r.limits.node "$id" = true := by
    have hid := hp.id
    rwa [Dict.has, hl "id" (by decide), hl "$id" (by decide)] at hid
  have hodd : r.limits.hasOddType = false := hasOddType_eq_false.mpr (hgl "type" (by decide) ▸ hs.type)
  rw [finish, disallow_self (hs.unset (by decide)), dependencyNames_self hdeps, maxDecimal_self hmax, divisibleBy_self hdiv,
    properties_self (late_limits hs hq) hu hr, flags_self (hf _ (by decide)) (hf _ (by decide)) hreq, identifier_self hid,
    types, if_neg (Bool.not_eq_true _ ▸ hodd)]

end Conversion

section Convert

open Conversion

variable {r : Conversion} {node node' : Dict Json} {schema' : Json} {state state' : DraftState} {fuel : Nat} {changed : Bool}

theorem rewritten_of_converted (hs : Flagged r.node) (hd : (Dict.keys r.node).Nodup) (hf : List.Forall₂
      (fun e e' => e'.1 = e.1 ∧ Converted (convert fuel) state changed e.1 e.2 e'.2) r.limits.schemaUri.node node') :
    Rewritten (Converted (convert fuel) state changed) r.node node' := by
  have hg : ∀ key ∉ ["$schema", "description"], holdsSchema key = false → holdsNamedSchemas key = false →
      Dict.get? node' key = r.limits.get? key := fun key hk hh hn =>
    (get?_of_converted hf hh hn).trans (get?_schemaUri hk)
  have ⟨hmin, hmax⟩ := respelled_limits hs
  refine ⟨?_, ?_, ?_, fun key hk => ?_⟩
  · rw [Dict.keys_of_forall₂ hf]
    exact nodup_schemaUri (nodup_limits hs hd)
  · rwa [hg _ (by decide) (by decide) (by decide), hg _ (by decide) (by decide) (by decide)]
  · rwa [hg _ (by decide) (by decide) (by decide), hg _ (by decide) (by decide) (by decide)]
  · have hsame : r.limits.schemaUri.get? key = r.get? key := by
      simp only [rewrittenKeys, List.mem_cons, List.not_mem_nil, or_false, not_or] at hk
      rw [get?_schemaUri (by simp [hk]), get?_limits hs (by simp [hk])]
    have hrel := Dict.rel_get?_of_forall₂ key hf
    rwa [show Dict.get? r.limits.schemaUri.node key = Dict.get? r.node key from hsame] at hrel

theorem convertItems_late {items items' : List Json} (hq : Late state)
    (h : convertItems (convert fuel) items state = some (items', state')) :
    List.Forall₂ (fun item item' => ∃ before inner, Late before ∧ convert fuel item before = some (item', inner)) items items' := by
  induction items generalizing items' state state'
  case nil =>
    obtain ⟨rfl, _⟩ := Prod.mk.inj (Option.some.inj h)
    exact .nil
  case cons item items hi =>
    obtain ⟨⟨item', inner⟩, hf, h⟩ := Option.bind_eq_some_iff.mp h
    obtain ⟨⟨rest, last⟩, hr, h⟩ := Option.bind_eq_some_iff.mp h
    obtain ⟨rfl, _⟩ := Prod.mk.inj (Option.some.inj h)
    have hq' : Late { state with changed := state.changed || inner.changed } := hq
    exact .cons ⟨state, inner, hq, hf⟩ (hi hq' hr)

-- A node without keywords of earlier drafts but flags is only rewritten in its limits, and in the schemas inside.
theorem rewritten_of_convert (hd : (Dict.keys node).Nodup) (hs : LimitFlagged (.obj node)) (hq : Late state)
    (h : convert (fuel + 1) (.obj node) state = some (schema', state')) :
    ∃ node' inner changed, schema' = .obj node' ∧ Late inner ∧ Rewritten (Converted (convert fuel) inner changed) node node' := by
  obtain ⟨r, node', changed, he, hm, rfl, _⟩ := convert_obj h
  cases hs
  case scalar h => exact nomatch h
  case node hs hi =>
    have ⟨draft, hl, hstart⟩ := start_eq hs.draft (hs.unset (by decide)) hq
    have hx : (start node state).extended? = none := by
      have hg : Dict.get? (unflagged node) "extends" = node.get? "extends" := get?_unflagged (by decide)
      have hx := hg ▸ hs.prepared.extended
      rw [hstart, extended?]
      cases hv : Dict.get? node "extends"
      case none => simp [Conversion.get?, hv]
      case some v => cases v <;> simp_all [Conversion.get?, Json.isContainer]
    obtain ⟨_, rfl⟩ | ⟨_, _, hx', _⟩ := convertExtended_cases he
    case inr => simp [hx] at hx'
    rw [hstart] at hm
    have hu : ∀ declared, Conversion.get? ⟨node, { state with draft }⟩ "properties" = some (.obj declared) →
        ∀ e ∈ declared, Unmarked e.2 := fun declared hp e he =>
      (hi _ (Dict.mem_of_get? hp) e.2 (List.mem_map_of_mem he)).unmarked
    rw [finish_eq_limits hs hl hu] at hm
    exact ⟨node', _, changed, rfl, late_schemaUri (late_limits hs hl), rewritten_of_converted hs hd (convertMembers_forall₂ hm)⟩

end Convert

end FormModel.Draft
