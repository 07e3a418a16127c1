import FormModel.Proofs.Draft.Steps

/-!
One level of converting: a node goes through its steps, and the schemas inside it are converted one level
below.
-/

namespace FormModel.Draft

open Conversion

variable {schema schema' : Json} {node : Dict Json} {state state' : DraftState} {fuel : Nat} {r : Conversion}
  {P : Role → Json → Prop}

theorem convert_obj (h : convert (fuel + 1) (.obj node) state = some (schema', state')) :
    ∃ r members changed, convertExtended (convert fuel) (start node state) = some r ∧
      convertMembers (convert fuel) r.finish.state r.finish.node = some (members, changed) ∧
      schema' = .obj members ∧ state'.changed = (r.finish.state.changed || changed) := by
  simp only [convert, Option.bind_eq_bind, Option.bind_eq_some_iff, Option.pure_def, Option.some.injEq,
    Prod.mk.injEq, Prod.exists] at h
  obtain ⟨r, he, members, changed, hm, hs, hc⟩ := h
  exact ⟨r, members, changed, he, hm, hs.symm, by rw [← hc]⟩

theorem convert_arr {items : List Json} (h : convert (fuel + 1) (.arr items) state = some (schema', state')) :
    ∃ items', convertItems (convert fuel) items state = some (items', state') ∧ schema' = .arr items' := by
  obtain ⟨⟨items', last⟩, hi, h⟩ := Option.bind_eq_some_iff.mp h
  obtain ⟨rfl, rfl⟩ := Prod.mk.inj (Option.some.inj h)
  exact ⟨items', hi, rfl⟩

theorem convert_scalar (hs : schema.isContainer = false) (h : convert (fuel + 1) schema state = some (schema', state')) :
    schema' = schema := by
  cases schema
  case arr => exact nomatch hs
  case obj => exact nomatch hs
  all_goals exact (Prod.mk.inj (Option.some.inj h)).1.symm

-- Only what an array or an object holds is converted, not what kind of value it is.
theorem kind_convert (h : convert fuel schema state = some (schema', state')) :
    schema'.isStr = schema.isStr ∧ schema'.isContainer = schema.isContainer := by
  cases fuel
  case zero => contradiction
  case succ fuel =>
    cases schema
    case obj =>
      obtain ⟨_, _, _, _, _, rfl, _⟩ := convert_obj h
      exact ⟨rfl, rfl⟩
    case arr =>
      obtain ⟨_, _, rfl⟩ := convert_arr h
      exact ⟨rfl, rfl⟩
    all_goals
      obtain rfl := convert_scalar rfl h
      exact ⟨rfl, rfl⟩

-- What the node extends becomes one keyword; if that is nothing, the node stays as it is.
theorem convertExtended_cases (h : convertExtended (convert fuel) (start node state) = some r) :
    ((start node state).extended? = none ∧ r = start node state) ∨
      ∃ extended converted, (start node state).extended? = some extended ∧
        r = (start node state).takeExtended converted ∧
        List.Forall₂ (fun m m' => ∃ inner, convert fuel m (start node state).state = some (m', inner)) extended converted := by
  unfold convertExtended at h
  split at h
  case h_1 hn => exact .inl ⟨hn, (Option.some.inj h).symm⟩
  case h_2 extended hs =>
    obtain ⟨converted, hc, h⟩ := Option.bind_eq_some_iff.mp h
    refine .inr ⟨extended, converted, hs, (Option.some.inj h).symm, (mapM_forall₂ hc).imp fun _ _ hm => ?_⟩
    obtain ⟨⟨_, inner⟩, hv, rfl⟩ := Option.map_eq_some_iff.mp hm
    exact ⟨inner, hv⟩

theorem holds_of_convertExtended (hP : Carried P) (hn : ∀ e ∈ node, P (Role.of e.1) e.2)
    (h : convertExtended (convert fuel) (start node state) = some r)
    (hi : ∀ {before members members'}, P .moved (.arr members) →
      List.Forall₂ (fun m m' => ∃ inner, convert fuel m before = some (m', inner)) members members' →
      P .schema (.arr members'))
    (hs : ∀ {before members m' inner}, P .moved (.obj members) →
      convert fuel (.obj members) before = some (m', inner) → P .schema (.arr [m'])) : r.Holds P := by
  have hstart : (start node state).Holds P := Holds.start hP hn
  rcases convertExtended_cases h with ⟨_, rfl⟩ | ⟨extended, converted, hx, rfl, hc⟩
  · exact hstart
  · refine (hstart.drop.put (k := "allOf") ?_).touch
    unfold extended? at hx
    split at hx
    case h_1 members he =>
      obtain rfl := Option.some.inj hx
      exact hi (hstart.get? he) hc
    case h_2 members he =>
      obtain rfl := Option.some.inj hx
      obtain _ | ⟨⟨_, hm⟩, hnil⟩ := hc
      cases hnil
      exact hs (hstart.get? he) hm
    case h_3 => contradiction

end FormModel.Draft
