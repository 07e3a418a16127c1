import FormModel.Proofs.Calls
import FormModel.Proofs.Draft.Levels

/-!
The calls made while a schema is converted.  A call is made for a schema and what is known about its draft, and it makes calls
for the schemas that it extends, and then for the schemas inside what it has made of the node: values that stand nowhere in the
schema, with copies of the keywords around them, and the extended schemas once more.  The calls are finitely many, and how many
levels are allowed makes no difference as soon as they are as many as the calls.
-/

namespace FormModel.Draft

open Conversion

-- A schema with what is known about its draft: what a call is made for, and what it comes to.
abbrev Call := Json × DraftState

-- What a call has come to when it has returned.
def Call.outcome (schema : Json) (state : DraftState) : Option Call := some (normalizeFrom state schema)

-- The node of a call with the schemas that it extends taken in.
def Call.extendedNode (node : Dict Json) (state : DraftState) : Conversion :=
  (convertExtended outcome (start node state)).getD (start node state)

-- The calls for schemas one after the other, where each one knows whether anything before it has been changed.
def Call.forItems : List Json → DraftState → List Call
  | [], _ => []
  | item :: rest, state =>
    (item, state) :: forItems rest { state with changed := state.changed || (normalizeFrom state item).2.changed }

-- The calls for the schemas that a node extends, all with the same state.
def Call.forExtended (r : Conversion) : List Call := (r.extended?.getD []).map (·, r.state)

-- The calls for the schemas inside a node, all with the same state.
def Call.forMembers (r : Conversion) : List Call := r.node.flatMap fun e => (schemasAt e.1 e.2).map (·, r.state)

-- The calls that are made directly by a call, in their order.
def Call.calls : Call → List Call
  | (.obj node, state) => forExtended (start node state) ++ forMembers (extendedNode node state).finish
  | (.arr items, state) => forItems items state
  | _ => []

section Keeps

variable {f g : Json → DraftState → Option Call} {f' g' : String → Json → Option (Json × Bool)} {key : String}
  {value schema : Json} {items : List Json} {members : List (String × Json)} {state : DraftState} {r : Conversion} {fuel : Nat}

theorem keeps_convertItems (h : ∀ schema state, Keeps (f schema state) (g schema state)) :
    Keeps (convertItems f items state) (convertItems g items state) := by
  induction items generalizing state
  case nil => exact .refl
  case cons item rest hi =>
    unfold convertItems
    exact (h item state).bind fun _ => hi.bind fun _ => .refl

theorem keeps_convertEntries (h : ∀ key value, Keeps (f' key value) (g' key value)) :
    Keeps (convertEntries f' members) (convertEntries g' members) := by
  induction members
  case nil => exact .refl
  case cons e rest hi =>
    unfold convertEntries
    exact (h e.1 e.2).bind fun _ => hi.bind fun _ => .refl

theorem keeps_convertInner (h : ∀ schema state, Keeps (f schema state) (g schema state)) :
    Keeps (convertInner f state schema) (convertInner g state schema) := (h schema state).map

theorem keeps_convertValue (h : ∀ schema state, Keeps (f schema state) (g schema state)) :
    Keeps (convertValue f state key value) (convertValue g state key value) := by
  cases value
  case obj members =>
    rw [convertValue, convertValue]
    split
    case isTrue => exact (keeps_convertEntries fun _ _ => keeps_convertInner h).map
    case isFalse =>
      split
      case isTrue => exact keeps_convertInner h
      case isFalse => exact .refl
  case arr items =>
    rw [convertValue, convertValue]
    split
    case isTrue => exact keeps_convertInner h
    case isFalse => exact .refl
  all_goals exact .refl

theorem keeps_convertMembers (h : ∀ schema state, Keeps (f schema state) (g schema state)) :
    Keeps (convertMembers f state members) (convertMembers g state members) :=
  keeps_convertEntries fun _ _ => keeps_convertValue h

theorem keeps_convertExtended (h : ∀ schema state, Keeps (f schema state) (g schema state)) :
    Keeps (convertExtended f r) (convertExtended g r) := by
  unfold convertExtended
  split
  case h_1 => exact .refl
  case h_2 => exact (Keeps.mapM fun _ => (h _ _).map).bind fun _ => .refl

-- More levels make no difference to what comes out.
theorem keeps_convert_succ (schema : Json) (state : DraftState) :
    Keeps (convert fuel schema state) (convert (fuel + 1) schema state) := by
  induction fuel generalizing schema state
  case zero => exact nofun
  case succ fuel hi =>
    cases schema
    case obj node =>
      unfold convert
      exact (keeps_convertExtended hi).bind fun _ => (keeps_convertMembers hi).bind fun _ => .refl
    case arr items =>
      unfold convert
      exact (keeps_convertItems hi).bind fun _ => .refl
    all_goals exact .refl

theorem keeps_convert_add (extra : Nat) (schema : Json) (state : DraftState) :
    Keeps (convert fuel schema state) (convert (fuel + extra) schema state) := by
  induction extra
  case zero => exact .refl
  case succ extra hi => exact fun r h => keeps_convert_succ schema state r (hi r h)

theorem convert_enoughLevels_add (extra : Nat) :
    convert (enoughLevels schema + extra) schema state = some (normalizeFrom state schema) :=
  keeps_convert_add extra _ _ _ (convert_enoughLevels schema state)

-- Whatever the levels are with which a call comes to an end, it comes to the same.
theorem keeps_outcome (schema : Json) (state : DraftState) :
    Keeps (convert fuel schema state) (Call.outcome schema state) := fun r h => by
  have hall := keeps_convert_add (enoughLevels schema) schema state r h
  rwa [Nat.add_comm, convert_enoughLevels_add] at hall

end Keeps

namespace Call

variable {n fuel : Nat} {schema : Json} {node : Dict Json} {items : List Json} {state : DraftState} {r : Conversion}
  {call called : Call}

theorem calls_obj : calls (.obj node, state) =
    forExtended (start node state) ++ forMembers (extendedNode node state).finish := rfl

theorem calls_scalar (h : call.1.isContainer = false) : call.calls = [] := by
  obtain ⟨schema, state⟩ := call
  cases schema <;> first | rfl | exact nomatch h

theorem extendedNode_eq (h : convertExtended (convert fuel) (start node state) = some r) : extendedNode node state = r := by
  rw [extendedNode, keeps_convertExtended keeps_outcome _ h]
  rfl

section Ends

-- Whether a call comes to an end with so many levels.
def EndsIn (fuel : Nat) (call : Call) : Prop := ∃ r, convert fuel call.1 call.2 = some r

theorem endsIn_iff : EndsIn fuel (schema, state) ↔ ∃ r, convert fuel schema state = some r := .rfl

theorem EndsIn.add (extra : Nat) (h : EndsIn n call) : EndsIn (n + extra) call :=
  have ⟨r, hr⟩ := h
  ⟨r, keeps_convert_add extra _ _ r hr⟩

theorem exists_convertItems_of_calls (h : ∀ called ∈ forItems items state, EndsIn fuel called) :
    ∃ r, convertItems (convert fuel) items state = some r := by
  induction items generalizing state
  case nil => exact ⟨_, rfl⟩
  case cons item rest hi =>
    have ⟨⟨first, hf⟩, h⟩ := List.forall_mem_cons.mp h
    obtain rfl := Option.some.inj (keeps_outcome _ _ _ hf)
    have ⟨last, hl⟩ := hi h
    exact ⟨_, Option.bind_eq_some_iff.mpr ⟨_, hf, Option.bind_eq_some_iff.mpr ⟨last, hl, rfl⟩⟩⟩

theorem exists_convertExtended_of_calls (h : ∀ called ∈ forExtended r, EndsIn fuel called) :
    ∃ r', convertExtended (convert fuel) r = some r' :=
  exists_convertExtended_of_members fun members hx m hm =>
    endsIn_iff.mp (h _ (List.mem_map_of_mem (by simpa [hx] using hm)))

theorem mem_forMembers : called ∈ forMembers r ↔ ∃ e ∈ r.node, ∃ schema ∈ schemasAt e.1 e.2, called = (schema, r.state) := by
  simp only [forMembers, List.mem_flatMap, List.mem_map, eq_comm (a := called)]

-- A call comes to an end with one more level than the calls it makes.
theorem endsIn_of_calls (h : ∀ called ∈ call.calls, EndsIn fuel called) : EndsIn (fuel + 1) call := by
  obtain ⟨schema, state⟩ := call
  cases schema
  case obj node =>
    rw [calls_obj, List.forall_mem_append] at h
    obtain ⟨r, he⟩ := exists_convertExtended_of_calls h.1
    have hm := h.2
    rw [extendedNode_eq he] at hm
    obtain ⟨⟨members, changed⟩, hm⟩ : ∃ r', convertMembers (convert fuel) r.finish.state r.finish.node = some r' :=
      exists_convertMembers fun e he schema hs => endsIn_iff.mp (hm _ (mem_forMembers.mpr ⟨e, he, schema, hs, rfl⟩))
    exact ⟨(.obj members, { r.finish.state with changed := r.finish.state.changed || changed }), by simp [convert, he, hm]⟩
  case arr items =>
    obtain ⟨r, hc⟩ := exists_convertItems_of_calls h
    exact ⟨_, Option.bind_eq_some_iff.mpr ⟨r, hc, rfl⟩⟩
  all_goals exact ⟨_, rfl⟩

end Ends

section Descent

theorem mem_forItems (h : called ∈ forItems items state) : called.1 ∈ items := by
  induction items generalizing state
  case nil => contradiction
  case cons item rest hi =>
    obtain rfl | h := List.mem_cons.mp h
    · exact List.mem_cons_self
    · exact List.mem_cons_of_mem _ (hi h)

theorem fits_of_mem_forExtended {other type : Nat} (hr : FitsIn other type r) (hc : called ∈ forExtended r) :
    called.1.isContainer = true → ∃ m ≤ other, Fits m .schema called.1 := by
  obtain ⟨schema, hm, rfl⟩ := List.mem_map.mp hc
  intro hs
  unfold extended? at hm
  split at hm
  case h_1 members he =>
    have hf : Fits other .schema (.arr members) := (hr.get? he).of_moved
    cases hf
    case scalar _ hs => exact nomatch hs
    case items n _ h => exact ⟨n, Nat.le_succ n, h schema hm hs⟩
  case h_2 members he => exact ⟨other, Nat.le_refl _, List.mem_singleton.mp hm ▸ (hr.get? he).of_moved⟩
  case h_3 => contradiction

-- A call has more levels than the calls it makes: those for the extended schemas have the levels of the node as it was, those for
-- the schemas inside the levels of what has been made of it.
theorem fits_of_mem_calls (h : call.1.isContainer = true → Fits n .schema call.1) (hc : called ∈ call.calls) :
    called.1.isContainer = true → ∃ m < n, Fits m .schema called.1 := by
  obtain ⟨schema, state⟩ := call
  cases schema
  case obj node =>
    have ⟨other, type, hsum, hs⟩ := fits_node (h rfl)
    have hstart : FitsIn other type (start node state) := Holds.start carried_fits hs
    rw [calls_obj, List.mem_append] at hc
    obtain hc | hc := hc
    · intro hs
      have ⟨m, hm, hf⟩ := fits_of_mem_forExtended hstart hc hs
      exact ⟨m, by omega, hf⟩
    · obtain ⟨r, he⟩ := exists_convertExtended hstart (Nat.le_refl _) fun hf hm => exists_convert hf hm
      rw [extendedNode_eq he] at hc
      have hr : FitsIn other type r := fitsIn_of_convertExtended hs he fits_convert
      have ⟨other', type', hsum', hf⟩ := fits_types (hr.prepare carried_fits)
      obtain ⟨e, he, schema, hin, rfl⟩ := mem_forMembers.mp hc
      exact fun _ => ⟨other', by omega, carried_fits.schemaAt (hf e he) hin⟩
  case arr items =>
    have hf := h rfl
    cases hf
    case scalar _ hs => exact nomatch hs
    case items n _ h => exact fun hs => ⟨n, Nat.lt_succ_self n, h _ (mem_forItems hc) hs⟩
  all_goals contradiction

theorem acc_calls (call : Call) (h : call.1.isContainer = true → Fits n .schema call.1) :
    Acc (fun called call => called ∈ call.calls) call := by
  induction n using Nat.strongRecOn generalizing call
  case ind n hi =>
    refine .intro call fun called hc => ?_
    cases hs : called.1.isContainer
    case true =>
      have ⟨m, hm, hf⟩ := fits_of_mem_calls h hc hs
      exact hi m hm called fun _ => hf
    case false => exact .intro called fun _ hc => absurd hc (by simp [calls_scalar hs])

end Descent

end Call

-- Converting a schema takes finitely many calls, whatever is copied, wrapped or converted twice in it, and it comes to an end.
-- How many levels are allowed makes no difference: with as many as there are calls, or more, the same comes out as with those
-- that are set aside for the schema, or more.
theorem converting_ends (schema : Json) (state : DraftState) : ∃ n, Takes Call.calls (schema, state) n ∧
    ∀ extra, convert (n + extra) schema state = some (normalizeFrom state schema) ∧
      convert (enoughLevels schema + extra) schema state = some (normalizeFrom state schema) := by
  have ⟨n, hn⟩ := exists_takes (Call.acc_calls (schema, state) fun _ => fits_size schema .schema 8 (by simp))
  refine ⟨n, hn, fun extra => ⟨?_, convert_enoughLevels_add extra⟩⟩
  have hends : Call.EndsIn n (schema, state) := hn.holds (fun _ extra _ => Call.EndsIn.add extra) fun _ _ => Call.endsIn_of_calls
  have ⟨r, hr⟩ := hends.add extra
  rw [hr]
  exact (keeps_outcome _ _ _ hr).symm

end FormModel.Draft
