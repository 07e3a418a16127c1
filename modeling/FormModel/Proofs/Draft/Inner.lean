import FormModel.Draft.Normalize
import FormModel.Proofs.Dict

/-!
The schemas inside a schema are converted one by one: what comes out stands in the same places, and each
of them is converted, or left as it is, if and only if all are.
-/

namespace FormModel.Draft

variable {f : String → Json → Option (Json × Bool)} {convert : Json → DraftState → Option (Json × DraftState)}
  {members members' : List (String × Json)} {items items' : List Json} {key : String} {value value' : Json}
  {state state' : DraftState} {changed : Bool} {R : Json → Json → Prop}

theorem convertEntries_forall₂ (h : convertEntries f members = some (members', changed)) :
    List.Forall₂ (fun e e' => e'.1 = e.1 ∧ ∃ c, f e.1 e.2 = some (e'.2, c) ∧ (c → changed)) members members' := by
  induction members generalizing members' changed
  case nil =>
    obtain ⟨rfl, _⟩ := Prod.mk.inj (Option.some.inj h)
    exact .nil
  case cons e members hi =>
    obtain ⟨⟨value, c⟩, hf, h⟩ := Option.bind_eq_some_iff.mp h
    obtain ⟨⟨rest, c'⟩, hr, h⟩ := Option.bind_eq_some_iff.mp h
    obtain ⟨rfl, rfl⟩ := Prod.mk.inj (Option.some.inj h)
    refine .cons ⟨rfl, c, hf, by simp_all⟩ ((hi hr).imp fun _ _ ⟨hk, c, hc, hch⟩ => ⟨hk, c, hc, ?_⟩)
    simp_all

theorem exists_convertEntries (h : ∀ e ∈ members, ∃ r, f e.1 e.2 = some r) :
    ∃ r, convertEntries f members = some r := by
  induction members
  case nil => exact ⟨_, rfl⟩
  case cons e members hi =>
    have ⟨⟨⟨value, c⟩, hf⟩, h⟩ := List.forall_mem_cons.mp h
    have ⟨⟨rest, c'⟩, hr⟩ := hi h
    exact ⟨((e.1, value) :: rest, c || c'), by simp [convertEntries, hf, hr]⟩

theorem convertEntries_self (h : ∀ e ∈ members, f e.1 e.2 = some (e.2, false)) :
    convertEntries f members = some (members, false) := by
  induction members
  case nil => rfl
  case cons e members hi =>
    have ⟨hf, h⟩ := List.forall_mem_cons.mp h
    simp [convertEntries, hf, hi h]

theorem convertItems_forall₂ (h : convertItems convert items state = some (items', state')) :
    (state.changed → state'.changed) ∧
      List.Forall₂ (fun item item' => ∃ before inner, convert item before = some (item', inner) ∧
        (inner.changed → state'.changed)) items items' := by
  induction items generalizing items' state
  case nil =>
    obtain ⟨rfl, rfl⟩ := Prod.mk.inj (Option.some.inj h)
    exact ⟨id, .nil⟩
  case cons item items hi =>
    obtain ⟨⟨item', inner⟩, hf, h⟩ := Option.bind_eq_some_iff.mp h
    obtain ⟨⟨rest, last⟩, hr, h⟩ := Option.bind_eq_some_iff.mp h
    obtain ⟨rfl, rfl⟩ := Prod.mk.inj (Option.some.inj h)
    have ⟨hc, hs⟩ := hi hr
    exact ⟨fun h => hc (by simp [h]), .cons ⟨_, inner, hf, fun h => hc (by simp [h])⟩ hs⟩

theorem exists_convertItems (h : ∀ item ∈ items, ∀ state, ∃ r, convert item state = some r) (state : DraftState) :
    ∃ r, convertItems convert items state = some r := by
  induction items generalizing state
  case nil => exact ⟨_, rfl⟩
  case cons item items hi =>
    have ⟨hf, h⟩ := List.forall_mem_cons.mp h
    have ⟨⟨item', inner⟩, hf⟩ := hf state
    have ⟨⟨rest, last⟩, hr⟩ := hi h { state with changed := state.changed || inner.changed }
    exact ⟨(item' :: rest, last), by simp [convertItems, hf, hr]⟩

theorem convertItems_self
    (h : ∀ item ∈ items, ∃ inner, convert item state = some (item, inner) ∧ inner.changed = false) :
    convertItems convert items state = some (items, state) := by
  induction items
  case nil => rfl
  case cons item items hi =>
    have ⟨⟨inner, hf, hc⟩, h⟩ := List.forall_mem_cons.mp h
    have hsame : { state with changed := state.changed || inner.changed } = state := by simp [hc]
    simp [convertItems, hf, hsame, hi h]

-- The schemas that stand in the value of a keyword, itself or under names.
def schemasAt (key : String) : Json → List Json
  | .obj members =>
    if holdsNamedSchemas key then members.map (·.2) else if holdsSchema key then [.obj members] else []
  | .arr items => if holdsSchema key then [.arr items] else []
  | _ => []

theorem not_holdsNamedSchemas (h : holdsSchema key = true) : holdsNamedSchemas key = false := by
  simp only [holdsSchema, List.contains_eq_mem, decide_eq_true_eq, List.mem_cons, List.not_mem_nil, or_false] at h
  obtain rfl | rfl | rfl | rfl | rfl | rfl | rfl := h <;> decide

theorem convertInner_eq_some :
    convertInner convert state value = some (value', changed) ↔
      ∃ inner, convert value state = some (value', inner) ∧ inner.changed = changed := by
  rw [convertInner, Option.map_eq_some_iff]
  constructor
  case mp =>
    intro ⟨⟨_, inner⟩, hv, h⟩
    obtain ⟨rfl, rfl⟩ := Prod.mk.inj h
    exact ⟨inner, hv, rfl⟩
  case mpr => exact fun ⟨inner, hv, h⟩ => ⟨(value', inner), hv, h ▸ rfl⟩

-- How the value of a keyword is converted: as a schema, as schemas under names, or not at all.
inductive Converted (convert : Json → DraftState → Option (Json × DraftState)) (state : DraftState) (changed : Bool)
    (key : String) : Json → Json → Prop where
  | schema (h : holdsSchema key = true) {value value' : Json} {inner : DraftState} (hm : value ∈ schemasAt key value)
    (hv : convert value state = some (value', inner)) (hc : inner.changed → changed) :
    Converted convert state changed key value value'
  | named (h : holdsNamedSchemas key = true) {members members' : List (String × Json)}
    (hm : List.Forall₂ (fun e e' => e'.1 = e.1 ∧ ∃ inner, convert e.2 state = some (e'.2, inner) ∧
      (inner.changed → changed)) members members') :
    Converted convert state changed key (.obj members) (.obj members')
  | alone {value : Json} (h : schemasAt key value = []) : Converted convert state changed key value value

theorem converted_of_convertValue {c : Bool} (h : convertValue convert state key value = some (value', c))
    (hc : c → changed) : Converted convert state changed key value value' := by
  cases value
  case obj members =>
    rw [convertValue] at h
    split at h
    case isTrue hk =>
      obtain ⟨⟨members', _⟩, hm, h⟩ := Option.map_eq_some_iff.mp h
      obtain ⟨rfl, rfl⟩ := Prod.mk.inj h
      refine .named hk ((convertEntries_forall₂ hm).imp fun _ _ ⟨he, _, hi, hch⟩ => ?_)
      obtain ⟨inner, hv, rfl⟩ := convertInner_eq_some.mp hi
      exact ⟨he, inner, hv, fun h => hc (hch h)⟩
    case isFalse hk =>
      split at h
      case isTrue hk' =>
        obtain ⟨inner, hv, rfl⟩ := convertInner_eq_some.mp h
        exact .schema hk' (by simp [schemasAt, hk, hk']) hv hc
      case isFalse hk' =>
        obtain ⟨rfl, _⟩ := Prod.mk.inj (Option.some.inj h)
        exact .alone (by simp [schemasAt, hk, hk'])
  case arr items =>
    rw [convertValue] at h
    split at h
    case isTrue hk =>
      obtain ⟨inner, hv, rfl⟩ := convertInner_eq_some.mp h
      exact .schema hk (by simp [schemasAt, hk]) hv hc
    case isFalse hk =>
      obtain ⟨rfl, _⟩ := Prod.mk.inj (Option.some.inj h)
      exact .alone (by simp [schemasAt, hk])
  all_goals
    obtain ⟨rfl, _⟩ := Prod.mk.inj (Option.some.inj h)
    exact .alone rfl

theorem convertMembers_forall₂ (h : convertMembers convert state members = some (members', changed)) :
    List.Forall₂ (fun e e' => e'.1 = e.1 ∧ Converted convert state changed e.1 e.2 e'.2) members members' :=
  (convertEntries_forall₂ h).imp fun _ _ ⟨he, _, hv, hc⟩ => ⟨he, converted_of_convertValue hv hc⟩

-- A schema in a converted value is a converted schema of the value.
theorem Converted.exists_schema {schema' : Json} (h : Converted convert state changed key value value')
    (hs : schema' ∈ schemasAt key value') :
    ∃ schema ∈ schemasAt key value, ∃ inner, convert schema state = some (schema', inner) ∧
      (inner.changed → changed) := by
  cases h
  case schema hk inner hc hm hv =>
    have he : schema' = value' := by
      cases value' <;> simp_all [schemasAt, not_holdsNamedSchemas]
    exact ⟨value, hm, inner, he ▸ hv, hc⟩
  case named hk members members' hm =>
    simp only [schemasAt, hk, if_true, List.mem_map] at hs ⊢
    obtain ⟨e', he', rfl⟩ := hs
    have ⟨e, he, _, hi⟩ := exists_mem_of_forall₂ hm he'
    exact ⟨e.2, ⟨e, he, rfl⟩, hi⟩
  case alone ha => simp [ha] at hs

theorem Converted.eq (h : Converted convert state changed key value value') (hs : holdsSchema key = false)
    (hn : holdsNamedSchemas key = false) : value' = value := by
  cases h <;> simp_all

theorem exists_convertMembers
    (h : ∀ e ∈ members, ∀ schema ∈ schemasAt e.1 e.2, ∃ r, convert schema state = some r) :
    ∃ r, convertMembers convert state members = some r := by
  refine exists_convertEntries fun ⟨key, value⟩ he => ?_
  have hi : ∀ schema ∈ schemasAt key value, ∃ r, convertInner convert state schema = some r := by
    intro schema hs
    have ⟨r, hr⟩ := h _ he schema hs
    exact ⟨_, convertInner_eq_some.mpr ⟨r.2, hr, rfl⟩⟩
  cases value
  case obj members =>
    dsimp only [convertValue, schemasAt] at hi ⊢
    split
    case isTrue hk =>
      rw [if_pos hk, List.forall_mem_map] at hi
      have ⟨r, hr⟩ := exists_convertEntries (f := fun _ => convertInner convert state) hi
      exact ⟨_, by rw [hr]; rfl⟩
    case isFalse hk =>
      split
      case isTrue hk' => exact hi _ (by simp [hk, hk'])
      case isFalse => exact ⟨_, rfl⟩
  case arr items =>
    dsimp only [convertValue, schemasAt] at hi ⊢
    split
    case isTrue hk => exact hi _ (by simp [hk])
    case isFalse => exact ⟨_, rfl⟩
  all_goals exact ⟨_, rfl⟩

theorem convertMembers_self
    (h : ∀ e ∈ members, ∀ schema ∈ schemasAt e.1 e.2, ∃ inner, convert schema state = some (schema, inner) ∧
      inner.changed = false) :
    convertMembers convert state members = some (members, false) := by
  refine convertEntries_self fun ⟨key, value⟩ he => ?_
  have hi : ∀ schema ∈ schemasAt key value, convertInner convert state schema = some (schema, false) :=
    fun schema hs => convertInner_eq_some.mpr (h _ he schema hs)
  cases value
  case obj members =>
    dsimp only [convertValue, schemasAt] at hi ⊢
    split
    case isTrue hk =>
      rw [if_pos hk, List.forall_mem_map] at hi
      rw [convertEntries_self (f := fun _ => convertInner convert state) hi]
      rfl
    case isFalse hk =>
      split
      case isTrue hk' => exact hi _ (by simp [hk, hk'])
      case isFalse => rfl
  case arr items =>
    dsimp only [convertValue, schemasAt] at hi ⊢
    split
    case isTrue hk => exact hi _ (by simp [hk])
    case isFalse => rfl
  all_goals rfl

theorem mapM_forall₂ {α β : Type} {f : α → Option β} {xs : List α} {ys : List β} (h : xs.mapM f = some ys) :
    List.Forall₂ (fun x y => f x = some y) xs ys := by
  induction xs generalizing ys
  case nil =>
    obtain rfl := Option.some.inj h
    exact .nil
  case cons x xs hi =>
    rw [List.mapM_cons] at h
    obtain ⟨y, hx, h⟩ := Option.bind_eq_some_iff.mp h
    obtain ⟨ys', hxs, h⟩ := Option.bind_eq_some_iff.mp h
    obtain rfl := Option.some.inj h
    exact .cons hx (hi hxs)

theorem exists_mapM {α β : Type} {f : α → Option β} {xs : List α} (h : ∀ x ∈ xs, ∃ y, f x = some y) :
    ∃ ys, xs.mapM f = some ys := by
  induction xs
  case nil => exact ⟨_, rfl⟩
  case cons x xs hi =>
    have ⟨⟨y, hx⟩, h⟩ := List.forall_mem_cons.mp h
    have ⟨ys, hxs⟩ := hi h
    exact ⟨y :: ys, by simp [hx, hxs]⟩

theorem exists_convertExtended_of_members {r : Conversion}
    (h : ∀ extended, r.extended? = some extended → ∀ m ∈ extended, ∃ m', convert m r.state = some m') :
    ∃ r', convertExtended convert r = some r' := by
  unfold convertExtended
  split
  case h_1 => exact ⟨_, rfl⟩
  case h_2 extended hx =>
    have ⟨converted, hc⟩ : ∃ converted, extended.mapM (fun m => (convert m r.state).map (·.1)) = some converted := by
      refine exists_mapM fun m hm => ?_
      have ⟨m', hc⟩ := h extended hx m hm
      exact ⟨m'.1, by rw [hc]; rfl⟩
    exact ⟨r.takeExtended converted, by rw [hc]; rfl⟩

end FormModel.Draft
