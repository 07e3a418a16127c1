import FormModel.Proofs.Json.Places
import FormModel.Proofs.Pointer.Ancestor
import FormModel.Proofs.Pointer.Canonical
import FormModel.Proofs.Pointer.Fragment
import FormModel.Proofs.Reference.Visits

/-!
Repetitions lead back to what is around them.  The schema that a repetition refers to has been placed at the repetition
or above it, and stands there as an object.  The reference that is left is the place of that schema behind a hash sign,
as it is; it reads back as this place only as far as a place can stand in a fragment unencoded.
-/

namespace FormModel

namespace Pointer

variable {p q : Path}

theorem isAncestor_append : isAncestor (ofPath p) (ofPath (p ++ q)) false = true := by
  rw [ofPath, ofPath, List.map_append]
  exact isAncestor_compile_append

end Pointer

namespace Reference

variable {root out : Json} {s s' : Site} {members : Dict Json} {ancestor : String} {noted : RecursionMap}
  {e : Enclosing}

section Visits

theorem Step.short (h : Step root s s') (hr : root.Short) (hn : s.node.Short) : s'.node.Short := by
  intro items hi
  cases h
  case member key value hnode _ _ _ hm =>
    have hv : s.node.atSlot? (.member key) = some value := by rwa [hnode]
    exact hn items (Json.mem_parts_of_atSlot? hv hi)
  case item i value hnode hm =>
    have hv : s.node.atSlot? (.item i) = some value := by rwa [hnode]
    exact hn items (Json.mem_parts_of_atSlot? hv hi)
  case follow hnode _ _ _ hm =>
    rcases mem_parts_referred hm hi with h | h | h
    · contradiction
    · exact hr items h
    · exact hn items (hnode ▸ h)

theorem Visits.short (h : Visits root (start root) s) (hr : root.Short) : s.node.Short ∧ ∀ slot ∈ s.place, slot.Bounded := by
  induction h
  case refl => exact ⟨hr, fun _ hm => nomatch hm⟩
  case tail s s' _ hs hi =>
    refine ⟨hs.short hr hi.1, ?_⟩
    cases hs
    case member =>
      exact List.forall_mem_append.mpr ⟨hi.2, List.forall_mem_singleton.mpr trivial⟩
    case item items i _ hn hm =>
      refine List.forall_mem_append.mpr ⟨hi.2, List.forall_mem_singleton.mpr ?_⟩
      have hlt := (List.getElem?_eq_some_iff.mp hm).1
      exact Nat.lt_of_lt_of_le hlt (hi.1 items (hn ▸ Json.mem_parts_self))
    case follow => exact hi.2

-- What is around a site are the objects on the way to it.
theorem Visits.exists_enclosing (h : Visits root (start root) s) (he : e ∈ s.around) : ∃ s₁ members,
    Visits root (start root) s₁ ∧ Visits root s₁ s ∧ s₁.node = .obj members ∧ e.location = Pointer.ofPath s₁.place := by
  induction h
  case refl => contradiction
  case tail s s' hv hs hi =>
    have hlast : Visits root s s' := .single hs
    have hold : e ∈ s.around → ∃ s₁ members, Visits root (start root) s₁ ∧ Visits root s₁ s' ∧ s₁.node = .obj members ∧
        e.location = Pointer.ofPath s₁.place := fun he => by
      obtain ⟨s₁, members, h₁, hs₁, hn⟩ := hi he
      exact ⟨s₁, members, h₁, hs₁.tail hs, hn⟩
    cases hs
    case member members _ _ hn _ _ _ _ =>
      rcases List.mem_append.mp he with he | he
      · exact hold he
      · exact ⟨s, members, hv, hlast, hn, by rw [List.mem_singleton.mp he]; rfl⟩
    case item => exact hold he
    case follow members _ _ _ hn _ _ _ _ =>
      rcases List.mem_append.mp he with he | he
      · exact hold he
      · exact ⟨s, members, hv, hlast, hn, by rw [List.mem_singleton.mp he]⟩

end Visits

section Repetition

variable {compiled : Json} {place : Path}

theorem Becomes.obj (hr : root.Distinct) (hd : s.node.Distinct) (hb : Becomes root s out noted) (hn : s.node = .obj members)
    (hv : Visits root s s') (hrep : s'.Repeats ancestor) : ∃ members', out = .obj members' := by
  induction hv using Relation.ReflTransGen.head_induction_on generalizing out members
  case refl => exact ⟨_, (hb.repeats hrep).1⟩
  case head s s₁ hs hv hi =>
    have ⟨q, out₁, hq, hf, hb₁⟩ := hb.step hr hd hs
    obtain ⟨levels, refs, refs', _, hb⟩ := hb
    cases hs
    case member members key value hn ht _ _ _ =>
      rw [hn] at hb
      have ⟨members', he, _⟩ := inlineNode_obj ht hb
      exact ⟨members', he⟩
    case item hn' _ => rw [hn] at hn'; contradiction
    case follow hn' _ _ _ hm =>
      obtain rfl : q = [] := List.self_eq_append_right.mp hq
      obtain rfl := Option.some.inj hf
      exact hi (distinct_referred hr (hn' ▸ hd) hm) hb₁ rfl

-- Whether a value is an object with a reference to the location of `ancestor`.
def RefersTo (node : Json) (ancestor : String) : Prop :=
  ∃ members ref, node = .obj members ∧ text? members = some ref ∧ target? ref = some ancestor

-- Whether the value at a location is an object with a reference that is read as the location of `ancestor`.
def ReadsBack (compiled : Json) (location ancestor : String) : Prop :=
  ∃ node, compiled.at? location = some node ∧ RefersTo node ancestor

theorem target?_fragment {ref : String} : target? ("#" ++ ref) = (Pointer.parse? ("#" ++ ref)).map Pointer.compile := by
  simp [target?]

theorem refersTo_fragment : RefersTo (.obj [("$ref", .str ("#" ++ Pointer.ofPath place))]) (Pointer.ofPath place) ↔
    Percent.decode (Pointer.ofPath place) = Pointer.ofPath place ∧ Pointer.ofPath place ≠ "/" := by
  have ht : RefersTo (.obj [("$ref", .str ("#" ++ Pointer.ofPath place))]) (Pointer.ofPath place) ↔
      target? ("#" ++ Pointer.ofPath place) = some (Pointer.ofPath place) :=
    ⟨fun ⟨_, _, hm, ht, hr⟩ => by cases hm; cases ht; exact hr, fun h => ⟨_, _, rfl, rfl, h⟩⟩
  rw [ht, target?_fragment]
  exact Pointer.map_compile_parse?_fragment

theorem Becomes.at? (hr : root.Distinct) (hs : root.Short) (hb : Becomes root (start root) compiled noted)
    (hv : Visits root (start root) s) : ∃ out, Becomes root s out noted ∧ compiled.follow? s.place = some out ∧
      (Pointer.ofPath s.place ≠ "/" → compiled.at? (Pointer.ofPath s.place) = some out) := by
  obtain ⟨q, out, hq, hf, hb⟩ := hb.visits hr hr hv
  obtain rfl : s.place = q := hq
  exact ⟨out, hb, hf, fun hn => Json.at?_ofPath (hv.short hs).2 hn hf⟩

-- What a repetition goes back to is found as an object.  If it is placed where the root is read, the root is one.
theorem Becomes.exists_obj_at? (hr : root.Distinct) (hs : root.Short) (hb : Becomes root (start root) compiled noted)
    (hv : Visits root (start root) s) (hn : s.node = .obj members) (hbelow : Visits root s s') (hrep : s'.Repeats ancestor) :
    ∃ members', compiled.at? (Pointer.ofPath s.place) = some (.obj members') := by
  obtain ⟨out, hb', hf, ha⟩ := hb.at? hr hs hv
  obtain ⟨members', rfl⟩ := hb'.obj hr (hv.distinct hr hr) hn hbelow hrep
  by_cases hslash : Pointer.ofPath s.place = "/"
  case neg => exact ⟨members', ha hslash⟩
  case pos =>
    rw [Pointer.eq_of_ofPath_eq_slash hslash] at hf
    rw [hslash, Json.at?_slash]
    cases compiled <;> simp [Json.atSlot?] at hf ⊢

end Repetition

end Reference

-- The schema that a repetition goes back to is at or above the place of the repetition, and an object.  The reference
-- that is left reads back as its place exactly if there is nothing to decode in it and it is not `/`, which is read as
-- the root; and what is noted at `/` is looked up at the root.
theorem repetitions_read_back {schema : Json} (hd : schema.Distinct) (hs : schema.Short) :
    ∃ compiled c, Context.empty.resolve? schema = some (compiled, c) ∧
      ∀ location ancestor, c.schemaRefs.get? location = some ancestor →
        Pointer.isAncestor ancestor location false = true ∧
        (∃ members, compiled.at? ancestor = some (.obj members)) ∧
        (Reference.ReadsBack compiled location ancestor ↔
          if location = "/" then Reference.RefersTo compiled ancestor
          else Percent.decode ancestor = ancestor ∧ ancestor ≠ "/") := by
  obtain ⟨compiled, c, hc, hb, hn⟩ := Context.exists_resolve?_visits hd
  refine ⟨compiled, c, hc, fun location ancestor hl => ?_⟩
  obtain ⟨s, hv, hrep, rfl⟩ := (hn.noted location ancestor hl).resolve_left (by simp)
  obtain ⟨_, _, _, _, _, _, hp⟩ := id hrep
  obtain ⟨e, he, rfl⟩ := Option.map_eq_some_iff.mp hp
  obtain ⟨s₁, members, hv₁, hbelow, hnode, hplace⟩ := hv.exists_enclosing (List.mem_of_find?_eq_some he)
  obtain ⟨q, hq⟩ := hbelow.prefix_place
  rw [hplace] at hrep ⊢
  refine ⟨hq ▸ Pointer.isAncestor_append, hb.exists_obj_at? hd hs hv₁ hnode hbelow hrep, ?_⟩
  obtain ⟨out, hb', hf, ha⟩ := hb.at? hd hs hv
  obtain ⟨rfl, _⟩ := hb'.repeats hrep
  unfold Reference.ReadsBack
  split
  case isTrue hslash => simp [hslash, Json.at?_slash]
  case isFalse hslash =>
    rw [ha hslash, ← Reference.refersTo_fragment]
    simp

-- A schema under a name with a slash and a tilde in it, that holds itself.
def escapedName : Json :=
  .obj [("properties", .obj [("a/b~c", .obj [("properties", .obj [("next", .obj [("$ref", "#/properties/a~1b~0c")])])])])]

theorem repetitions_read_back_escapedName : ∃ compiled c, Context.empty.resolve? escapedName = some (compiled, c) ∧
    c.schemaRefs.get? "/properties/a~1b~0c/properties/next" = some "/properties/a~1b~0c" ∧
    Reference.ReadsBack compiled "/properties/a~1b~0c/properties/next" "/properties/a~1b~0c" := by
  have hd : escapedName.Distinct := by simp [escapedName, Json.Distinct, Json.DistinctMembers, Dict.keys]
  have hs : escapedName.Short := fun items hi => by
    simp [escapedName, Json.parts, Json.partsOfMembers] at hi
  obtain ⟨compiled, c, hc, h⟩ := repetitions_read_back hd hs
  have hl : (Context.empty.resolve? escapedName).bind (·.2.schemaRefs.get? "/properties/a~1b~0c/properties/next") =
      some "/properties/a~1b~0c" := by decide +kernel
  rw [hc, Option.bind_some] at hl
  refine ⟨compiled, c, hc, hl, (h _ _ hl).2.2.mpr ?_⟩
  rw [if_neg (by decide)]
  decide +kernel

-- A name with a percent sign in it, left where it repeats.
def percentName : Json :=
  .obj [("properties", .obj [("%41", .obj [("properties", .obj [("x", .obj [("$ref", "#/properties/%41")])])])])]

-- A percent sign is not encoded in the reference that is left, so what follows it may be decoded.
theorem percentName_does_not_read_back : ∃ compiled c,
    Context.empty.resolve? (.obj [("properties", .obj [("%41", .obj [("properties", .obj [("x",
      .obj [("$ref", "#/properties/%2541")])])])])]) = some (compiled, c) ∧
    c.schemaRefs.get? "/properties/%41/properties/x" = some "/properties/%41" ∧
    ¬Reference.ReadsBack compiled "/properties/%41/properties/x" "/properties/%41" := by
  refine ⟨percentName, { Context.empty with schemaRefs := [("/properties/%41/properties/x", "/properties/%41")] },
    by with_unfolding_all rfl, rfl, ?_⟩
  rintro ⟨node, hnode, members, ref, rfl, ht, hr⟩
  have hat : (percentName.at? "/properties/%41/properties/x").bind (·.members?.bind Reference.text?) =
      some "#/properties/%41" := by decide
  rw [hnode, Option.bind_some, Json.members?, Option.bind_some, ht] at hat
  rw [Option.some.inj hat] at hr
  exact absurd hr (by decide +kernel)

end FormModel
