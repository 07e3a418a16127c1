import FormModel.Proofs.Draft.Convert
import FormModel.Proofs.Draft.Retype
import FormModel.Proofs.Json.Parts

/-!
Converting never runs out of levels.  A node takes the levels of the schemas inside it and those of its
`type`, apart from each other: an alternative for an entry of `type` has all that stands around it, but the
entry in place of the `type`.
-/

namespace FormModel.Draft

open Conversion

-- The levels for a value of some role in a node, with so many for `type` and so many for everything else.
def Role.level (other type : Nat) : Role → Nat
  | .type => type
  | _ => other

theorem Role.level_of_ne {role : Role} {other type : Nat} (h : role ≠ .type) : role.level other type = other := by
  cases role <;> first | rfl | contradiction

-- So many levels are enough for a value of some role, converted once or more often.
inductive Fits : Nat → Role → Json → Prop where
  | scalar {n : Nat} {role : Role} {value : Json} (hs : value.isContainer = false) (hn : 2 ≤ n) : Fits n role value
  | items {n : Nat} {items : List Json} (hn : 1 ≤ n)
    (h : ∀ item ∈ items, item.isContainer = true → Fits n .schema item) : Fits (n + 1) .schema (.arr items)
  | node {n c t : Nat} {node : Dict Json} (hn : c + t < n)
    (h : ∀ e ∈ node, Fits ((Role.of e.1).level c t) (Role.of e.1) e.2) : Fits n .schema (.obj node)
  | named {n : Nat} {members : List (String × Json)} (h : ∀ e ∈ members, Fits n .schema e.2) :
    Fits n .named (.obj members)
  | namedItems {n : Nat} {items : List Json} : Fits n .named (.arr items)
  | movedItems {n : Nat} {items : List Json} (h : Fits n .schema (.arr items)) : Fits n .moved (.arr items)
  | movedNode {n : Nat} {node : Dict Json} (h : Fits n .schema (.obj node)) : Fits (n + 1) .moved (.obj node)
  | disallowed {n : Nat} {types : List Json} (h : ∀ t ∈ types, t.isStr = false → Fits n .type t) :
    Fits (n + 3) .disallowed (.arr types)
  | disallowedNode {n : Nat} {node : Dict Json} : Fits n .disallowed (.obj node)
  | typeName {n : Nat} {value : Json} (hs : value.isContainer = false) : Fits n .type value
  | typeNames {n : Nat} {types : List Json} (h : ∀ t ∈ types, t.isStr = true) : Fits n .type (.arr types)
  | types {n : Nat} {types : List Json} (h : ∀ t ∈ types, t.isStr = false → Fits n .type t) :
    Fits (n + 3) .type (.arr types)
  | typeNode {n : Nat} {node : Dict Json} (h : Fits n .schema (.obj node)) : Fits n .type (.obj node)
  | other {n : Nat} {value : Json} : Fits n .other value

section Fits

variable {n m other type : Nat} {role : Role} {value t : Json} {node members : Dict Json} {items types : List Json}
  {r : Conversion}

theorem Fits.mono (h : Fits n role value) (hn : n ≤ m) : Fits m role value := by
  induction h generalizing m
  case scalar hs hn' => exact .scalar hs (Nat.le_trans hn' hn)
  case items hn' _ hi =>
    obtain ⟨m, rfl⟩ := Nat.exists_eq_add_of_le' (Nat.le_trans (Nat.le_add_left ..) hn)
    have hn := Nat.le_of_succ_le_succ hn
    exact .items (Nat.le_trans hn' hn) fun item hm hc => hi item hm hc hn
  case node hn' h _ => exact .node (Nat.lt_of_lt_of_le hn' hn) h
  case named hi => exact .named fun e he => hi e he hn
  case namedItems => exact .namedItems
  case movedItems hi => exact .movedItems (hi hn)
  case movedNode hi =>
    obtain ⟨m, rfl⟩ := Nat.exists_eq_add_of_le' (Nat.le_trans (Nat.le_add_left ..) hn)
    exact .movedNode (hi (Nat.le_of_succ_le_succ hn))
  case disallowed hi =>
    obtain ⟨m, rfl⟩ := Nat.exists_eq_add_of_le' (Nat.le_trans (Nat.le_add_left ..) hn)
    exact .disallowed fun t ht hs => hi t ht hs (by omega)
  case disallowedNode => exact .disallowedNode
  case typeName hs => exact .typeName hs
  case typeNames h => exact .typeNames h
  case types hi =>
    obtain ⟨m, rfl⟩ := Nat.exists_eq_add_of_le' (Nat.le_trans (Nat.le_add_left ..) hn)
    exact .types fun t ht hs => hi t ht hs (by omega)
  case typeNode hi => exact .typeNode (hi hn)
  case other => exact .other

theorem fits_node (h : Fits n .schema (.obj node)) :
    ∃ other type, other + type < n ∧ ∀ e ∈ node, Fits ((Role.of e.1).level other type) (Role.of e.1) e.2 := by
  cases h
  case scalar _ hs => exact nomatch hs
  case node other type hn h => exact ⟨other, type, hn, h⟩

theorem fits_named : Fits n .named (.obj members) ↔ ∀ e ∈ members, Fits n .schema e.2 := by
  constructor
  case mp =>
    intro h
    cases h
    case scalar _ hs => exact nomatch hs
    case named h => exact h
  case mpr => exact .named

theorem fits_singleton (hn : 1 ≤ n) (h : Fits n .schema value) : Fits (n + 1) .schema (.arr [value]) :=
  .items hn fun _ hm _ => List.mem_singleton.mp hm ▸ h

theorem fits_nameList (h : Fits n .schema value) : Fits n .schema (nameList value) := by
  unfold nameList
  split
  case isTrue hs =>
    cases value <;> cases hs
    cases h
    case scalar hn _ =>
      obtain ⟨n, rfl⟩ := Nat.exists_eq_add_of_le' hn
      exact .items (Nat.le_add_left ..) fun item hm hc => by
        obtain rfl := List.mem_singleton.mp hm
        exact nomatch hc
  case isFalse => exact h

theorem Fits.of_moved (h : Fits n .moved value) : Fits n .schema value := by
  cases h
  case scalar hn hs => exact .scalar hs hn
  case movedItems h => exact h
  case movedNode h => exact h.mono (Nat.le_succ _)

-- The levels of an entry are shared out among its type and everything else.
theorem fits_entryMembers (h : t.isStr = false → Fits n .type t) :
    ∃ other type, other + type ≤ n ∧ ∀ e ∈ entryMembers t, Fits ((Role.of e.1).level other type) (Role.of e.1) e.2 := by
  cases t
  case obj members =>
    cases h rfl
    case scalar _ hs => exact nomatch hs
    case typeName hs => exact nomatch hs
    case typeNode h =>
      have ⟨other, type, hn, hm⟩ := fits_node h
      exact ⟨other, type, Nat.le_of_lt hn, hm⟩
  case arr => exact ⟨0, n, Nat.le_of_eq (Nat.zero_add n), fun e he => List.mem_singleton.mp he ▸ h rfl⟩
  all_goals exact ⟨0, 0, Nat.zero_le n, fun e he => List.mem_singleton.mp he ▸ .typeName rfl⟩

theorem fits_entries (h : ∀ t ∈ types, t.isStr = false → Fits n .type t) :
    Fits (n + 2) .schema (.arr (types.map fun t => .obj (entryMembers t))) := by
  refine .items (Nat.le_add_left ..) fun item hm _ => ?_
  obtain ⟨t, ht, rfl⟩ := List.mem_map.mp hm
  have ⟨other, type, hn, hm⟩ := fits_entryMembers (h t ht)
  exact .node (Nat.lt_succ_of_le hn) hm

theorem carried_fits : Carried fun role value => Fits (role.level other type) role value where
  other _ := .other
  disallowedName t h := by
    cases h
    case scalar hn _ =>
      exact .node (c := 0) (t := 0) (Nat.lt_of_lt_of_le Nat.zero_lt_two hn) fun e he =>
        List.mem_singleton.mp he ▸ .typeName rfl
  disallowedNames types h := by
    cases h
    case scalar _ hs => exact nomatch hs
    case disallowed n h =>
      exact .node (c := n + 2) (t := 0) (Nat.lt_succ_self _) fun e he =>
        List.mem_singleton.mp he ▸ fits_entries h
  named _ := fits_named
  nameList _ := fits_nameList
  requires p v hp hv := by
    obtain ⟨members, hm, hv⟩ := Option.bind_eq_some_iff.mp hv
    cases p <;> cases hm
    have ⟨_, _, hn, h⟩ := fits_node hp
    exact (h _ (Dict.mem_of_get? hv)).of_moved.mono (Nat.le_trans (Nat.le_add_right ..) (Nat.le_of_lt hn))

-- All values of a node fit into so many levels for its `type` and so many for everything else.
abbrev FitsIn (other type : Nat) (r : Conversion) : Prop := r.Holds fun role value => Fits (role.level other type) role value

theorem fits_declaredType (h : FitsIn other type r) : Fits type .type (declaredType r.node) := by
  unfold declaredType
  cases hv : Dict.get? r.node "type"
  case none => exact .typeName rfl
  case some v =>
    have ht : Fits type .type v := Holds.get? (P := fun role value => Fits (role.level other type) role value) h hv
    rw [Option.getD_some]
    split
    case h_1 single =>
      cases hs : single.isStr
      case true => cases single <;> first | exact .typeName rfl | exact nomatch hs
      case false =>
        cases ht
        case scalar _ hs => exact nomatch hs
        case typeName hs => exact nomatch hs
        case typeNames ht => exact absurd (ht single List.mem_cons_self) (Bool.eq_false_iff.mp hs)
        case types n ht => exact (ht single List.mem_cons_self hs).mono (Nat.le_add_right ..)
    case h_2 => exact ht

theorem fits_level_mono {other' : Nat} (h : Fits (role.level other type) role value) (hn : other ≤ other') :
    Fits (role.level other' type) role value := by
  cases role
  case type => exact h
  all_goals exact h.mono hn

theorem fits_level_type {type' : Nat} (h : Fits (role.level other type) role value) (hr : role ≠ .type) :
    Fits (role.level other type') role value := by
  rw [Role.level_of_ne hr] at h ⊢
  exact h

-- An alternative trades the type of the node for an entry of it, which has fewer levels.
theorem fits_typeBranch (hn : FitsIn other type r) (ht : t.isStr = false → Fits n .type t) :
    Fits (other + n + 1) .schema (typeBranch r.node t) := by
  have ⟨other', type', hsum, he⟩ := fits_entryMembers ht
  refine .node (c := max other other') (t := type') (by omega) fun e hm => ?_
  rcases mem_foldl_takeOver hm with hm | ⟨hm, hk⟩
  · exact fits_level_mono (he e hm) (Nat.le_max_right ..)
  · exact fits_level_type (fits_level_mono (hn e hm) (Nat.le_max_left ..)) (Role.of_eq_type.not.mpr hk)

theorem fits_retyped {node' : Dict Json} (h : Retyped r.node node') (hr : FitsIn other type r) :
    ∃ other' type', other' + type' ≤ other + type ∧ FitsIn other' type' (r.withNode node') := by
  cases h
  case dropped => exact ⟨other, type, Nat.le_refl _, hr.drop⟩
  case named t ht =>
    refine ⟨other, type, Nat.le_refl _, hr.put (k := "type") ?_⟩
    cases t
    case str => exact .typeName rfl
    case arr names =>
      refine .typeNames fun n hm => ?_
      obtain ⟨_, _, rfl⟩ := isStandardType_iff.mp (ht n hm)
      rfl
    all_goals exact ht.elim
  case alternatives types ht hs =>
    have hd := ht ▸ fits_declaredType hr
    cases hd
    case scalar _ hc => exact nomatch hc
    case typeName hc => exact nomatch hc
    case typeNames hd => simp [List.all_eq_true.mpr hd] at hs
    case types n hd =>
      refine ⟨other + n + 2, 0, by omega, List.forall_mem_cons.mpr ⟨?_, fun e he => ?_⟩⟩
      · refine .items (Nat.le_add_left ..) fun branch hb _ => ?_
        obtain ⟨t, hm, rfl⟩ := List.mem_map.mp hb
        exact fits_typeBranch hr (hd t hm)
      · obtain ⟨v, _, he⟩ := Option.map_eq_some_iff.mp (Option.mem_toList.mp he)
        exact he ▸ .other
  case hoisted schema hs =>
    have hd := hs ▸ fits_declaredType hr
    cases hd
    case scalar _ hc => exact nomatch hc
    case typeName hc => exact nomatch hc
    case typeNode hd =>
      have ⟨other', type', hsum, hm⟩ := fits_node hd
      refine ⟨max other other', type', by omega, fun e he => ?_⟩
      rcases Dict.mem_extend he with he | he
      · have ⟨he, hk⟩ := List.mem_filter.mp he
        exact fits_level_type (fits_level_mono (hr e he) (Nat.le_max_left ..)) (Role.of_eq_type.not.mpr (bne_iff_ne.mp hk))
      · exact fits_level_mono (hm e he) (Nat.le_max_right ..)

theorem fits_types (hr : FitsIn other type r) : ∃ other' type', other' + type' ≤ other + type ∧ FitsIn other' type' r.types := by
  unfold Conversion.types
  split
  case isTrue => exact fits_retyped (retyped_convertTypes _) (hr.touch.schemaUri carried_fits)
  case isFalse => exact ⟨other, type, Nat.le_refl _, hr.schemaUri carried_fits⟩

end Fits

section Convert

variable {n fuel : Nat} {schema schema' : Json} {state state' : DraftState}

-- Items keep their levels, and those that are no containers take none.
theorem fits_convertedItems {items items' : List Json} (h : Fits n .schema (.arr items))
    (hi : ∀ {m item item' before inner}, Fits m .schema item → convert fuel item before = some (item', inner) →
      Fits m .schema item')
    (hc : ∀ item' ∈ items', ∃ item ∈ items, ∃ before inner, convert fuel item before = some (item', inner)) :
    Fits n .schema (.arr items') := by
  cases h
  case scalar _ hs => exact nomatch hs
  case items n hn h =>
    refine .items hn fun item' hm hs => ?_
    have ⟨item, hm, _, _, hv⟩ := hc item' hm
    exact hi (h item hm ((kind_convert hv).2 ▸ hs)) hv

theorem fitsIn_of_convertExtended {other type : Nat} {node : Dict Json} {r : Conversion}
    (hs : ∀ e ∈ node, Fits ((Role.of e.1).level other type) (Role.of e.1) e.2)
    (he : convertExtended (convert fuel) (start node state) = some r)
    (hi : ∀ {m item item' before inner}, Fits m .schema item → convert fuel item before = some (item', inner) →
      Fits m .schema item') : FitsIn other type r := by
  refine holds_of_convertExtended carried_fits hs he ?_ ?_
  · intro before members members' hx hc
    refine fits_convertedItems hx.of_moved hi fun m' hm' => ?_
    have ⟨m, hm, inner, hv⟩ := exists_mem_of_forall₂ hc hm'
    exact ⟨m, hm, before, inner, hv⟩
  · intro before members m' inner hx hv
    cases hx
    case scalar _ hs => exact nomatch hs
    case movedNode n hx =>
      have ⟨_, _, hn, _⟩ := fits_node hx
      exact fits_singleton (Nat.lt_of_le_of_lt (Nat.zero_le _) hn) (hi hx hv)

-- What comes out of converting takes no more levels than what went in.
theorem fits_convert (hs : Fits n .schema schema) (h : convert fuel schema state = some (schema', state')) :
    Fits n .schema schema' := by
  induction fuel generalizing n schema schema' state state'
  case zero => contradiction
  case succ fuel hi =>
    cases schema
    case obj node =>
      obtain ⟨r, members, changed, he, hm, rfl, _⟩ := convert_obj h
      have ⟨other, type, hn, hs⟩ := fits_node hs
      have hr : FitsIn other type r := fitsIn_of_convertExtended hs he hi
      have ⟨other', type', hsum, hf⟩ := fits_types (hr.prepare carried_fits)
      refine .node (Nat.lt_of_le_of_lt hsum hn) fun e' he' => ?_
      have ⟨e, he, hk, hc⟩ := exists_mem_of_forall₂ (convertMembers_forall₂ hm) he'
      exact hk ▸ carried_fits.converted hc (hf e he) fun hs hv => hi hs hv
    case arr items =>
      obtain ⟨items', hc, rfl⟩ := convert_arr h
      refine fits_convertedItems hs hi fun item' hm => ?_
      have ⟨item, hm, before, inner, hv, _⟩ := exists_mem_of_forall₂ (convertItems_forall₂ hc).2 hm
      exact ⟨item, hm, before, inner, hv⟩
    all_goals
      obtain rfl := convert_scalar rfl h
      exact hs

theorem exists_convert_scalar (hs : schema.isContainer = false) (hf : 1 ≤ fuel) (state : DraftState) :
    ∃ r, convert fuel schema state = some r := by
  obtain ⟨fuel, rfl⟩ := Nat.exists_eq_add_of_le' hf
  cases schema
  case arr => exact nomatch hs
  case obj => exact nomatch hs
  all_goals exact ⟨_, rfl⟩

-- Where the levels for some items are at hand, all of them are converted.
theorem exists_convert_item {items : List Json} (h : Fits n .schema (.arr items)) (hn : n ≤ fuel + 1)
    (hi : ∀ {m item}, Fits m .schema item → m ≤ fuel → ∀ before, ∃ r, convert fuel item before = some r) :
    ∀ item ∈ items, ∀ before, ∃ r, convert fuel item before = some r := by
  intro item hm before
  cases h
  case scalar _ hs => exact nomatch hs
  case items n hn' h =>
    cases hs : item.isContainer
    case true => exact hi (h item hm hs) (Nat.le_of_succ_le_succ hn) before
    case false => exact exists_convert_scalar hs (Nat.le_trans hn' (Nat.le_of_succ_le_succ hn)) before

theorem exists_convertExtended {other type : Nat} {r : Conversion} (hr : FitsIn other type r) (hn : other ≤ fuel)
    (hi : ∀ {m item}, Fits m .schema item → m ≤ fuel → ∀ before, ∃ r, convert fuel item before = some r) :
    ∃ r', convertExtended (convert fuel) r = some r' := by
  refine exists_convertExtended_of_members fun extended hx m hm => ?_
  unfold extended? at hx
  split at hx
  case h_1 he =>
    obtain rfl := Option.some.inj hx
    exact exists_convert_item (hr.get? he).of_moved (Nat.le_succ_of_le hn) hi m hm _
  case h_2 he =>
    obtain rfl := Option.some.inj hx
    exact hi (List.mem_singleton.mp hm ▸ (hr.get? he).of_moved) hn _
  case h_3 => exact nomatch hx

-- With as many levels as a schema takes, converting comes to an end.
theorem exists_convert (h : Fits n .schema schema) (hn : n ≤ fuel) (state : DraftState) :
    ∃ r, convert fuel schema state = some r := by
  induction fuel generalizing n schema state
  case zero =>
    obtain rfl := Nat.le_zero.mp hn
    cases h <;> contradiction
  case succ fuel hi =>
    cases schema
    case obj node =>
      obtain ⟨other, type, hsum, hs⟩ := fits_node h
      obtain ⟨r, he⟩ := exists_convertExtended (Holds.start carried_fits hs : FitsIn other type (start node state))
        (by omega) hi
      have hr : FitsIn other type r := fitsIn_of_convertExtended hs he fits_convert
      obtain ⟨other', type', hsum', hf⟩ := fits_types (hr.prepare carried_fits)
      have hle : other' ≤ fuel := by omega
      obtain ⟨⟨members, changed⟩, hm⟩ : ∃ r', convertMembers (convert fuel) r.finish.state r.finish.node = some r' :=
        exists_convertMembers fun e he inside hin => hi (carried_fits.schemaAt (hf e he) hin) hle _
      exact ⟨(.obj members, { r.finish.state with changed := r.finish.state.changed || changed }), by simp [convert, he, hm]⟩
    case arr items =>
      obtain ⟨⟨items', state'⟩, hc⟩ := exists_convertItems (exists_convert_item h hn hi) state
      exact ⟨(.arr items', state'), by simp [convert, hc]⟩
    all_goals exact ⟨_, rfl⟩

theorem sizeMembers_filter {members : List (String × Json)} {f : String × Json → Bool} :
    Json.sizeMembers (members.filter f) + Json.sizeMembers (members.filter fun e => !f e) = Json.sizeMembers members := by
  induction members
  case nil => rfl
  case cons e members hi =>
    obtain ⟨_, v⟩ := e
    rw [List.filter_cons, List.filter_cons]
    cases f (_, v) <;> simp only [Bool.not_true, Bool.not_false, Bool.false_eq_true, if_true, if_false, Json.sizeMembers] <;>
      omega

-- The members of a node share its levels, those of `type` and all others.
theorem fits_size_node {node : Dict Json} (extra : Nat)
    (hi : ∀ e ∈ node, ∀ role extra, (role = .moved → 1 ≤ extra) → Fits (4 * e.2.size + extra) role e.2) :
    Fits (4 * (Json.obj node).size + extra) .schema (.obj node) := by
  let isType : String × Json → Bool := fun e => e.1 == "type"
  have hsum : Json.sizeMembers (node.filter isType) + Json.sizeMembers (node.filter fun e => !isType e) =
      Json.sizeMembers node := sizeMembers_filter
  refine .node (c := 4 * Json.sizeMembers (node.filter fun e => !isType e) + 1)
    (t := 4 * Json.sizeMembers (node.filter isType)) (by simp only [Json.size]; omega) fun e he => ?_
  by_cases ht : e.1 = "type"
  case pos =>
    rw [Role.of_eq_type.mpr ht]
    have hm : e ∈ node.filter isType := List.mem_filter.mpr ⟨he, beq_iff_eq.mpr ht⟩
    have hle := Json.size_le_sizeMembers hm
    exact (hi e he .type 0 nofun).mono (by show _ ≤ 4 * Json.sizeMembers (node.filter isType); omega)
  case neg =>
    have hm : e ∈ node.filter fun e => !isType e := List.mem_filter.mpr ⟨he, by simpa [isType] using ht⟩
    have hle := Json.size_le_sizeMembers hm
    have hf := (hi e he (Role.of e.1) 1 fun _ => Nat.le_refl 1).mono
      (m := 4 * Json.sizeMembers (node.filter fun e => !isType e) + 1) (by omega)
    exact (Role.level_of_ne (Role.of_eq_type.not.mpr ht)).symm ▸ hf

theorem fits_size_items {items : List Json} (role : Role) (extra : Nat)
    (hi : ∀ item ∈ items, ∀ role, role ≠ .moved → ∀ m, 4 * item.size ≤ m → Fits m role item) :
    Fits (4 * (Json.arr items).size + extra) role (.arr items) := by
  have hitem : ∀ item ∈ items, ∀ role, role ≠ .moved → ∀ m, 4 * Json.sizeItems items ≤ m → Fits m role item :=
    fun item hm role hr m hle => hi item hm role hr m (by have := Json.size_le_sizeItems hm; omega)
  have hschema : Fits (4 * (Json.arr items).size + extra) .schema (.arr items) := by
    have hn : 4 * (Json.arr items).size + extra = 4 * Json.sizeItems items + 3 + extra + 1 := by
      simp only [Json.size]; omega
    rw [hn]
    exact .items (by omega) fun item hm _ => hitem item hm .schema nofun _ (by omega)
  have hn : 4 * (Json.arr items).size + extra = 4 * Json.sizeItems items + 1 + extra + 3 := by
    simp only [Json.size]; omega
  cases role
  case schema => exact hschema
  case named => exact .namedItems
  case moved => exact .movedItems hschema
  case disallowed =>
    rw [hn]
    exact .disallowed fun t ht _ => hitem t ht .type nofun _ (by omega)
  case type =>
    rw [hn]
    exact .types fun t ht _ => hitem t ht .type nofun _ (by omega)
  case other => exact .other

-- Four levels for every node of a value are enough, and one more if it is taken over.
theorem fits_size (value : Json) (role : Role) (extra : Nat) (he : role = .moved → 1 ≤ extra) :
    Fits (4 * value.size + extra) role value := by
  induction hsize : value.size using Nat.strongRecOn generalizing value role extra
  case ind size hi =>
    subst hsize
    cases value
    case arr items =>
      refine fits_size_items role extra fun item hm role hr m hle => ?_
      have hs := Json.size_le_sizeItems hm
      exact (hi item.size (Nat.lt_succ_of_le hs) item role 0 (fun h => absurd h hr) rfl).mono hle
    case obj node =>
      have hmember : ∀ e ∈ node, ∀ role extra, (role = .moved → 1 ≤ extra) → Fits (4 * e.2.size + extra) role e.2 := by
        intro e hm role extra he
        exact hi e.2.size (Nat.lt_succ_of_le (Json.size_le_sizeMembers hm)) e.2 role extra he rfl
      cases role
      case schema => exact fits_size_node extra hmember
      case named =>
        refine .named fun e hm => (hmember e hm .schema 0 nofun).mono ?_
        have hs := Json.size_le_sizeMembers hm
        simp only [Json.size]
        omega
      case moved =>
        obtain ⟨extra, rfl⟩ := Nat.exists_eq_add_of_le' (he rfl)
        exact .movedNode (fits_size_node extra hmember)
      case disallowed => exact .disallowedNode
      case type => exact .typeNode (fits_size_node extra hmember)
      case other => exact .other
    all_goals exact .scalar rfl (Nat.le_trans (by decide : 2 ≤ 4 * 1) (Nat.le_add_right ..))

end Convert

-- Converting a schema comes to an end within the levels that are set aside for it.
theorem convert_enoughLevels (schema : Json) (state : DraftState) :
    convert (enoughLevels schema) schema state = some (normalizeFrom state schema) := by
  have ⟨r, hr⟩ := exists_convert (fits_size schema .schema 8 (by simp)) (Nat.le_refl _) state
  rw [normalizeFrom, enoughLevels, hr]
  rfl

end FormModel.Draft
