import FormModel.Proofs.Draft.Convert
import FormModel.Proofs.Draft.Settle

/-!
Converting gives a modern schema, unless a schema is merged into a node out of its `type`: then its keywords
come into the node after the steps that would take them away.
-/

namespace FormModel.Draft

-- The role of an entry of `type` or `disallow`.
def Role.ofEntry (t : Json) : Role := if t.isObj then .schema else .type

-- In a value of some role, no schema is merged into another out of its `type`: where `type` is an object,
-- or a list of one object.  In longer lists an object becomes an alternative of its own.
inductive HoistFree : Role → Json → Prop where
  | scalar {role : Role} {value : Json} (h : value.isContainer = false) : HoistFree role value
  | items {items : List Json} (h : ∀ item ∈ items, HoistFree .schema item) : HoistFree .schema (.arr items)
  | node {node : Dict Json} (h : ∀ e ∈ node, HoistFree (Role.of e.1) e.2) : HoistFree .schema (.obj node)
  | named {members : List (String × Json)} (h : ∀ e ∈ members, HoistFree .schema e.2) : HoistFree .named (.obj members)
  | namedItems {items : List Json} : HoistFree .named (.arr items)
  | moved {value : Json} (h : HoistFree .schema value) : HoistFree .moved value
  | disallowed {types : List Json} (h : ∀ t ∈ types, HoistFree (Role.ofEntry t) t) : HoistFree .disallowed (.arr types)
  | disallowedNode {node : Dict Json} : HoistFree .disallowed (.obj node)
  | types {types : List Json} (h : ∀ t ∈ types, HoistFree (Role.ofEntry t) t) (hs : ∀ schema, types ≠ [.obj schema]) :
    HoistFree .type (.arr types)
  | other {value : Json} : HoistFree .other value

open Conversion

section Roles

variable {key : String} {value schema t : Json} {node members : Dict Json}

theorem hoistFree_node : HoistFree .schema (.obj node) ↔ ∀ e ∈ node, HoistFree (Role.of e.1) e.2 := by
  constructor
  case mp =>
    intro h
    cases h
    case scalar h => exact nomatch h
    case node h => exact h
  case mpr => exact .node

theorem hoistFree_named : HoistFree .named (.obj members) ↔ ∀ e ∈ members, HoistFree .schema e.2 := by
  constructor
  case mp =>
    intro h
    cases h
    case scalar h => exact nomatch h
    case named h => exact h
  case mpr => exact .named

theorem HoistFree.of_moved (h : HoistFree .moved value) : HoistFree .schema value := by
  cases h
  case scalar h => exact .scalar h
  case moved h => exact h

theorem hoistFree_nameList (h : HoistFree .schema value) : HoistFree .schema (nameList value) := by
  unfold nameList
  split
  case isTrue hs =>
    exact .items fun item hm => List.mem_singleton.mp hm ▸ h
  case isFalse => exact h

-- What an entry stands for is free of hoists if the entry is.
theorem hoistFree_entryMembers (h : HoistFree (Role.ofEntry t) t) : ∀ e ∈ entryMembers t, HoistFree (Role.of e.1) e.2 := by
  cases t
  case obj members => exact hoistFree_node.mp h
  all_goals
    intro e he
    obtain rfl := List.mem_singleton.mp he
    exact h

theorem hoistFree_entries {types : List Json} (h : ∀ t ∈ types, HoistFree (Role.ofEntry t) t) :
    HoistFree .schema (.arr (types.map fun t => .obj (entryMembers t))) := by
  refine .items fun item hm => ?_
  obtain ⟨t, ht, rfl⟩ := List.mem_map.mp hm
  exact .node (hoistFree_entryMembers (h t ht))

theorem carried_hoistFree : Carried HoistFree where
  other _ := .other
  disallowedName t _ := .node fun e he => List.mem_singleton.mp he ▸ .scalar rfl
  disallowedNames types h := by
    refine .node fun e he => ?_
    obtain rfl := List.mem_singleton.mp he
    cases h
    case scalar h => exact nomatch h
    case disallowed h => exact hoistFree_entries h
  named _ := hoistFree_named
  nameList _ := hoistFree_nameList
  requires p v hp hv := by
    obtain ⟨members, hm, hv⟩ := Option.bind_eq_some_iff.mp hv
    cases p <;> cases hm
    exact (hoistFree_node.mp hp _ (Dict.mem_of_get? hv)).of_moved

end Roles

section Types

variable {r : Conversion} {node : Dict Json} {e : String × Json} {t : Json} {branch : Dict Json}

theorem hoistFree_typeBranch (hn : ∀ e ∈ node, HoistFree (Role.of e.1) e.2) (ht : HoistFree (Role.ofEntry t) t) :
    HoistFree .schema (typeBranch node t) := by
  refine .node fun e he => ?_
  rcases mem_foldl_takeOver he with he | ⟨he, _⟩
  · exact hoistFree_entryMembers ht e he
  · exact hn e he

-- What `type` declares is itself free of hoists, and so no object.
theorem hoistFree_declaredType (h : r.Holds HoistFree) : HoistFree .type (declaredType r.node) := by
  unfold declaredType
  cases hv : Dict.get? r.node "type"
  case none => exact .scalar rfl
  case some v =>
    have ht : HoistFree .type v := h.get? hv
    rw [Option.getD_some]
    split
    case h_1 single =>
      cases ht
      case scalar ht => exact nomatch ht
      case types ht hs =>
        have ht := ht single List.mem_cons_self
        cases single
        case obj => exact absurd rfl (hs _)
        all_goals exact ht
    case h_2 => exact ht

theorem not_isObj_declaredType (h : r.Holds HoistFree) : (declaredType r.node).isObj = false := by
  have ht := hoistFree_declaredType h
  cases hd : declaredType r.node
  case obj =>
    rw [hd] at ht
    cases ht
    case scalar ht => exact nomatch ht
  all_goals rfl

theorem hoistFree_retyped {node' : Dict Json} (h : Retyped r.node node') (hr : r.Holds HoistFree) :
    ∀ e ∈ node', HoistFree (Role.of e.1) e.2 := by
  cases h
  case dropped => exact hr.drop
  case named t ht =>
    refine hr.put (k := "type") ?_
    cases t
    case str => exact .scalar rfl
    case arr names =>
      have hn : ∀ n ∈ names, n.isObj = false := fun n hm => by
        obtain ⟨_, _, rfl⟩ := isStandardType_iff.mp (ht n hm)
        rfl
      refine .types (fun n hm => ?_) fun schema hs => ?_
      · obtain ⟨_, _, rfl⟩ := isStandardType_iff.mp (ht n hm)
        exact .scalar rfl
      · have := hn (.obj schema) (by simp [hs])
        contradiction
    all_goals contradiction
  case alternatives types ht _ =>
    have hd := ht ▸ hoistFree_declaredType hr
    refine List.forall_mem_cons.mpr ⟨?_, fun e he => ?_⟩
    · refine .items fun branch hb => ?_
      obtain ⟨t, hm, rfl⟩ := List.mem_map.mp hb
      cases hd
      case scalar hd => exact nomatch hd
      case types hd _ => exact hoistFree_typeBranch hr (hd t hm)
    · obtain ⟨v, _, he⟩ := Option.map_eq_some_iff.mp (Option.mem_toList.mp he)
      exact he ▸ .other
  case hoisted schema hs =>
    have := not_isObj_declaredType hr
    rw [hs] at this
    contradiction

theorem Conversion.Holds.types (h : r.Holds HoistFree) : r.types.Holds HoistFree := by
  unfold Conversion.types
  split
  case isTrue => exact hoistFree_retyped (retyped_convertTypes _) (h.touch.schemaUri carried_hoistFree)
  case isFalse => exact h.schemaUri carried_hoistFree

end Types

section Converted

variable {schema schema' : Json} {node : Dict Json} {state state' : DraftState} {fuel : Nat} {r : Conversion}
  {members : List (String × Json)} {changed : Bool}

theorem prepared_of_convertExtended (h : convertExtended (convert fuel) (start node state) = some r) :
    Prepared r.prepare.node := by
  have he : (start node state).isSet "contentEncoding" = false := isSet_contentEncoding
  rcases convertExtended_cases h with ⟨hn, rfl⟩ | ⟨extended, converted, _, rfl, _⟩
  · refine prepared_prepare he ?_
    unfold extended? at hn
    cases hv : (start node state).get? "extends"
    case none => rfl
    case some v => cases v <;> simp_all [Json.isContainer]
  · refine prepared_prepare ?_ (by simp [takeExtended])
    rw [isSet] at he ⊢
    rwa [get?_takeExtended (by decide)]

-- A node is modern once it is converted, if no schema has been merged into it and the schemas inside have
-- become modern.
theorem modern_of_convertMembers (he : convertExtended (convert fuel) (start node state) = some r)
    (hn : r.prepare.hasOddType = true → (declaredType r.prepare.node).isObj = false)
    (hm : convertMembers (convert fuel) r.finish.state r.finish.node = some (members, changed))
    (hi : ∀ e ∈ r.finish.node, ∀ inside ∈ schemasAt e.1 e.2, ∀ inside' inner,
      convert fuel inside r.finish.state = some (inside', inner) → (inner.changed → changed) → Modern inside') :
    Modern (.obj members) := by
  have hf := convertMembers_forall₂ hm
  have hs : Settled r.finish.node := settled_types (prepared_of_convertExtended he) hn
  refine .node (hs.converted hf fun _ _ _ _ hv => (kind_convert hv).1) fun e' he' inside' hin => ?_
  obtain ⟨e, hmem, hk, hc⟩ := exists_mem_of_forall₂ hf he'
  rw [hk] at hin
  have ⟨inside, hin, inner, hv, hch⟩ := hc.exists_schema hin
  exact hi e hmem inside hin inside' inner hv hch

-- Merging a schema into a node is reported, as every step is that looks at `type`.
theorem changed_types (h : r.hasOddType = true) : r.types.state.changed = true := by
  rw [types, if_pos h]
  show r.touch.schemaUri.state.changed = true
  unfold schemaUri
  repeat' split
  all_goals rfl

-- If converting reports no change, what comes out is modern.
theorem modern_of_unchanged (h : convert fuel schema state = some (schema', state')) (hc : state'.changed = false) :
    Modern schema' := by
  induction fuel generalizing schema schema' state state'
  case zero => contradiction
  case succ fuel hi =>
    cases schema
    case obj node =>
      obtain ⟨r, members, changed, he, hm, rfl, hs⟩ := convert_obj h
      rw [hs, finish_eq_prepare, Bool.or_eq_false_iff] at hc
      refine modern_of_convertMembers he ?_ hm ?_
      · intro ho
        exact absurd (changed_types ho) (Bool.eq_false_iff.mp hc.1)
      · intro e he inside hin inside' inner hv hch
        exact hi hv (Bool.eq_false_iff.mpr fun ht => by simp [hch ht] at hc)
    case arr items =>
      obtain ⟨items', hc', rfl⟩ := convert_arr h
      refine .items fun item' hm => ?_
      have ⟨item, _, before, inner, hv, hin⟩ := exists_mem_of_forall₂ (convertItems_forall₂ hc').2 hm
      exact hi hv (Bool.eq_false_iff.mpr fun ht => by simp [hin ht] at hc)
    all_goals exact convert_scalar rfl h ▸ .scalar rfl

-- Where no schema is merged into another, converting gives a modern schema.
theorem modern_of_hoistFree (hs : HoistFree .schema schema) (h : convert fuel schema state = some (schema', state')) :
    Modern schema' ∧ HoistFree .schema schema' := by
  induction fuel generalizing schema schema' state state'
  case zero => contradiction
  case succ fuel hi =>
    have hitems : ∀ {items items' : List Json}, (∀ item ∈ items, HoistFree .schema item) →
        (∀ item' ∈ items', ∃ item ∈ items, ∃ before inner, convert fuel item before = some (item', inner)) →
        Modern (.arr items') ∧ HoistFree .schema (.arr items') := by
      intro items items' hs hc
      have hi' : ∀ item' ∈ items', Modern item' ∧ HoistFree .schema item' := fun item' hm => by
        have ⟨item, hm, _, _, hv⟩ := hc item' hm
        exact hi (hs item hm) hv
      exact ⟨.items fun item' hm => (hi' item' hm).1, .items fun item' hm => (hi' item' hm).2⟩
    cases schema
    case obj node =>
      obtain ⟨r, members, changed, he, hm, rfl, _⟩ := convert_obj h
      have hr : r.Holds HoistFree := by
        refine holds_of_convertExtended carried_hoistFree (hoistFree_node.mp hs) he ?_ ?_
        · intro before members members' hx hc
          cases hx.of_moved
          case scalar h => exact nomatch h
          case items hx =>
            refine (hitems hx fun m' hm' => ?_).2
            have ⟨m, hm, inner, hv⟩ := exists_mem_of_forall₂ hc hm'
            exact ⟨m, hm, before, inner, hv⟩
        · intro before members m' inner hx hv
          exact .items fun item hm => List.mem_singleton.mp hm ▸ (hi hx.of_moved hv).2
      have hp : r.prepare.Holds HoistFree := hr.prepare carried_hoistFree
      have hf : ∀ e ∈ r.finish.node, HoistFree (Role.of e.1) e.2 := hp.types
      refine ⟨modern_of_convertMembers he (fun _ => not_isObj_declaredType hp) hm ?_, .node fun e' he' => ?_⟩
      · intro e he inside hin inside' inner hv _
        exact (hi (carried_hoistFree.schemaAt (hf e he) hin) hv).1
      · have ⟨e, he, hk, hc⟩ := exists_mem_of_forall₂ (convertMembers_forall₂ hm) he'
        exact hk ▸ carried_hoistFree.converted hc (hf e he) fun hs hv => (hi hs hv).2
    case arr items =>
      obtain ⟨items', hc, rfl⟩ := convert_arr h
      cases hs
      case scalar hs => exact nomatch hs
      case items hs =>
        refine hitems hs fun item' hm => ?_
        have ⟨item, hm, before, inner, hv, _⟩ := exists_mem_of_forall₂ (convertItems_forall₂ hc).2 hm
        exact ⟨item, hm, before, inner, hv⟩
    all_goals exact convert_scalar rfl h ▸ ⟨.scalar rfl, .scalar rfl⟩

end Converted

end FormModel.Draft
