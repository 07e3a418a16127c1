import FormModel.Proofs.Build.Mirror
import FormModel.Proofs.Pointer.Fold
import FormModel.Proofs.Reference.Repetitions

/-!
Forms that follow the recursion of the data.  A slot whose schema repeats an enclosing one, and for which there
is data, gets a control made from the enclosing schema and that data, if it is under a name or an item beyond
those of a tuple.  The slots of a tuple are not followed: there it gets none.
-/

namespace FormModel

namespace Builder

variable {root schema data v : Json} {c c₁ : Context} {node : Dict Json} {place own location ancestor : String} {slot : Slot}
  {path : Path} {o : Option Template} {t t' : Template} {site : Site}

-- A control that is built from the schema at a place and a value; it may have been required since.
def MadeFrom (root : Json) (c : Context) (place : String) (data : Json) (t : Template) : Prop :=
  ∃ levels c₁ c₂ dataPointer templatePointer made, SameMaps c c₁ ∧
    within root false levels ⟨place, data, dataPointer, templatePointer⟩ c₁ = .ok (some made, c₂) ∧
      (t = made ∨ t = made.require)

-- The place from whose schema the control in a slot of the one for a place is built.
def slotControlPlace? (root : Json) (c : Context) (place : String) (slot : Slot) : Option String :=
  (root.at? place).bind fun schema =>
    (slotPlace? (schemaNode schema) place slot).bind (buildPlace? root c (schemaNode schema) slot)

-- The place from whose schema the control at the end of a path is built.
def controlPlace? (root : Json) (c : Context) (path : Path) : Option String :=
  path.foldlM (slotControlPlace? root c) ""

section Made

theorem MadeFrom.require (h : MadeFrom root c place data t) : MadeFrom root c place data t.require := by
  obtain ⟨levels, c₁, c₂, dataPointer, templatePointer, made, hk, hw, ht⟩ := h
  refine ⟨levels, c₁, c₂, dataPointer, templatePointer, made, hk, hw, .inr ?_⟩
  rcases ht with rfl | rfl
  · rfl
  · exact Template.require_require

-- A control that is asked for where there is data.
def Made (root : Json) (c : Context) (place : String) (data : Json) (t : Template) : Prop :=
  data.isNull = false → MadeFrom root c place data t

theorem SameMaps.kept (h : SameMaps c c₁) : Kept c (Made root c) c₁ := ⟨h, fun _ _ _ => ⟨"", nofun⟩⟩

theorem MadeFrom.pictures (h : MadeFrom root c place data t) : Pictures root c (Made root c) place data t := by
  obtain ⟨levels, c₁, c₂, dataPointer, templatePointer, made, hm, hw, ht⟩ := h
  have hreq : ∀ place data t, Made root c place data t → Made root c place data t.require :=
    fun _ _ _ h hn => (h hn).require
  have hp : Pictures root c (Made root c) place data made := by
    refine pictures_of_within hreq (fun hm hw _ _ => ?_) hm.kept hw
    exact ⟨_, _, _, _, _, _, hm, hw, .inl rfl⟩
  rcases ht with rfl | rfl
  · exact hp
  · exact hp.require

-- What is in a slot for which there is data.
theorem MadeFrom.atSlot (h : MadeFrom root c place data t) (ho : t.slot? slot = some o) (hv : data.atSlot? slot = some v)
    (hn : v.isNull = false) : (o.isSome ↔ ∃ p, slotControlPlace? root c place slot = some p ∧ HasControl root p) ∧
      ∀ t', o = some t' → ∃ p, slotControlPlace? root c place slot = some p ∧ MadeFrom root c p v t' := by
  have ⟨schema, hs, hf⟩ := h.pictures.slots ho
  have hvalue : data.slotValue slot = v := by rw [Json.slotValue, hv, Option.getD_some]
  have hnull : data.slotValue slot ≠ .null := fun he => by simp [← hvalue, he, Json.isNull] at hn
  cases hf
  case built own p hown hp hb =>
    have hplace : slotControlPlace? root c place slot = some p := by
      rw [slotControlPlace?, hs, Option.bind_some, hown, Option.bind_some, hp]
    rw [hvalue] at hb
    refine ⟨hb.isSome.trans ⟨fun hc => ⟨p, hplace, hc⟩, ?_⟩, fun t' ht => ⟨p, hplace, hb.control ht hn⟩⟩
    rintro ⟨p', hp', hc⟩
    rwa [← Option.some.inj (hp'.symm.trans hplace)]
  case copied he _ => exact absurd he hnull
  case empty he => exact absurd he hnull
  case unread own hown hp =>
    have hplace : slotControlPlace? root c place slot = none := by
      rw [slotControlPlace?, hs, Option.bind_some, hown, Option.bind_some, hp]
    simp [hplace]

-- Every control on a path along which there is data is made from the data there.
theorem MadeFrom.follow (h : MadeFrom root c place data t) (ht : t.follow? path = some t') (hv : data.follow? path = some v)
    (hn : v.isNull = false) : ∃ p, path.foldlM (slotControlPlace? root c) place = some p ∧ MadeFrom root c p v t' := by
  induction path generalizing place data t
  case nil =>
    obtain rfl := Option.some.inj ht
    obtain rfl := Option.some.inj hv
    exact ⟨place, rfl, h⟩
  case cons slot path hi =>
    obtain ⟨t₁, hs, ht⟩ := Option.bind_eq_some_iff.mp ht
    obtain ⟨v₁, hv₁, hv⟩ := Option.bind_eq_some_iff.mp hv
    have hn₁ : v₁.isNull = false := by
      cases v₁ <;> first | rfl | skip
      cases path
      case nil => exact Option.some.inj hv ▸ hn
      case cons => contradiction
    have ⟨p, hp, hm⟩ := (h.atSlot (Option.join_eq_some_iff.mp hs) hv₁ hn₁).2 t₁ rfl
    have ⟨p', hp', hm'⟩ := hi hm ht hv
    exact ⟨p', by rw [List.foldlM_cons, hp]; exact hp', hm'⟩

end Made

section Noted

open Pointer (Canonical ofPath isAncestor)

variable {compiled : Json} {refs : RecursionMap} {p p' : String}

-- Nothing is inside what is left at a repetition but the text of the reference.
theorem eq_nil_of_follow?_reference {text : String} {members : Dict Json}
    (h : (Json.obj [("$ref", .str text)]).follow? path = some (.obj members)) : path = [] := by
  cases path
  case nil => rfl
  case cons slot path =>
    obtain ⟨v, hv, h⟩ := Option.bind_eq_some_iff.mp h
    cases slot
    case item => contradiction
    case member name =>
      obtain ⟨_, rfl⟩ : _ ∧ Json.str text = v := by simpa [Json.atSlot?, Dict.get?] using hv
      cases path
      case nil => cases h
      case cons => contradiction

-- What is noted of a schema, with what is left of the schema at the places of it.
structure Noted (compiled : Json) (refs : RecursionMap) (location ancestor : String) (p q : Path) : Prop where
  location_eq : location = ofPath (p ++ q)
  ancestor_eq : ancestor = ofPath p
  bounded : ∀ slot ∈ p ++ q, slot.Bounded
  reference : compiled.follow? (p ++ q) = some (.obj [("$ref", .str ("#" ++ ancestor))])
  enclosing : ∃ members, compiled.follow? p = some (.obj members)

-- Whether all that is noted of a schema is noted at what is left of it.
def AllNoted (compiled : Json) (refs : RecursionMap) : Prop :=
  ∀ location ancestor, Dict.get? refs location = some ancestor → ∃ p q, Noted compiled refs location ancestor p q

theorem allNoted_of_resolve? (hd : schema.Distinct) (hs : schema.Short) (hr : Context.empty.resolve? schema = some (compiled, c)) :
    AllNoted compiled c.schemaRefs := by
  intro location ancestor hl
  obtain ⟨_, _, hr', hb, hn⟩ := Context.exists_resolve?_visits hd
  obtain ⟨rfl, rfl⟩ := Prod.mk.inj (Option.some.inj (hr'.symm.trans hr))
  obtain ⟨s, hv, hrep, rfl⟩ := (hn.noted location ancestor hl).resolve_left (by simp)
  obtain ⟨_, _, _, _, _, _, hp⟩ := id hrep
  obtain ⟨e, he, rfl⟩ := Option.map_eq_some_iff.mp hp
  obtain ⟨s₁, members, hv₁, hbelow, hnode, hplace⟩ := hv.exists_enclosing (List.mem_of_find?_eq_some he)
  obtain ⟨q, hq⟩ := hbelow.prefix_place
  obtain ⟨out, hb', hf, _⟩ := hb.at? hd hs hv
  obtain ⟨out₁, hb₁, hf₁, _⟩ := hb.at? hd hs hv₁
  refine ⟨s₁.place, q, by rw [hq], hplace, hq ▸ (hv.short hs).2, ?_, ?_⟩
  · rw [hq, hf, (hb'.repeats hrep).1]
  · have ⟨members', hm⟩ := hb₁.obj hd (hv₁.distinct hd hd) hnode hbelow hrep
    exact ⟨members', hm ▸ hf₁⟩

variable (hall : AllNoted compiled refs)

include hall

-- A place that is noted is above no object but itself.
theorem eq_of_isAncestor_noted {members : Dict Json} (hl : Dict.has refs location = true)
    (hq : compiled.follow? path = some (.obj members)) (ha : isAncestor location (ofPath path) false = true) :
    location = ofPath path ∧ ∃ text, members = [("$ref", .str text)] := by
  have ⟨ancestor, hg⟩ := Option.isSome_iff_exists.mp hl
  obtain ⟨p, q, h⟩ := hall _ _ hg
  rw [h.location_eq] at ha
  obtain ⟨r, rfl⟩ := Pointer.prefix_of_isAncestor h.reference hq ha
  rw [Json.follow?_append, h.reference, Option.bind_some] at hq
  obtain rfl := eq_nil_of_follow?_reference hq
  exact ⟨by rw [h.location_eq, List.append_nil], "#" ++ ancestor, (Json.obj.inj (Option.some.inj hq)).symm⟩

theorem not_isAncestor_noted {members : Dict Json} {e : String × String} (he : e ∈ refs)
    (hq : compiled.follow? path = some (.obj members))
    (hne : e.1 = ofPath path → ∀ text, members ≠ [("$ref", .str text)]) : isAncestor e.1 (ofPath path) false = false := by
  refine Bool.eq_false_iff.mpr fun ha => ?_
  have hl : Dict.has refs e.1 = true := by
    by_contra hl
    exact Dict.has_eq_false.mp (Bool.not_eq_true _ ▸ hl) (List.mem_map_of_mem he)
  have ⟨heq, text, hm⟩ := eq_of_isAncestor_noted hall hl hq ha
  exact hne heq text hm

omit hall in
theorem not_hasControl_reference {text : String} (h : compiled.at? p = some (.obj [("$ref", .str text)])) :
    ¬HasControl compiled p := by
  intro ⟨schema, hs, hk⟩
  obtain rfl := Option.some.inj (h.symm.trans hs)
  exact hk (by simp [ControlKind.ofSchema, ControlKind.typeNames, Dict.has, Dict.get?])

omit hall in
theorem Noted.at? {q : Path} {path : Path} (h : Noted compiled refs own ancestor path q) (hc : Canonical own) :
    compiled.at? own = some (.obj [("$ref", .str ("#" ++ ancestor))]) := by
  have hslash : own ≠ "/" := by
    rintro rfl
    unfold Canonical at hc
    exact absurd hc (by decide)
  rw [h.location_eq] at hslash ⊢
  exact Json.at?_ofPath h.bounded hslash h.reference

omit hall in
-- The ancestor is read as its own place, unless that is where the root is read.
theorem map_compile_parse?_ofPath : (Pointer.parse? (ofPath path)).map Pointer.compile = some (ofPath path) ↔ ofPath path ≠ "/" := by
  constructor
  case mp =>
    intro h he
    rw [he] at h
    exact absurd h (by decide)
  case mpr => exact fun hn => Pointer.canonical_compile fun ht => hn (by rw [ofPath, ht]; rfl)

end Noted

section Items

open Pointer (Canonical ofPath isAncestor)

variable {compiled : Json}

-- Items whose schema repeats an enclosing one are built from that.
theorem itemsPlace_of_noted (hall : AllNoted compiled c.schemaRefs) (hc : Canonical own)
    (hl : Dict.get? c.schemaRefs own = some ancestor) (ha : HasControl compiled ancestor) :
    (Pointer.parse? ancestor).map Pointer.compile = some (itemsPlace c own) := by
  obtain ⟨p, q, h⟩ := hall _ _ hl
  have href : ¬HasControl compiled own := not_hasControl_reference (h.at? hc)
  have hne : ancestor ≠ own := fun he => href (he ▸ ha)
  have hstrict : isAncestor ancestor own true = true := by
    refine Pointer.isAncestor_strict ?_ hne
    rw [h.ancestor_eq, h.location_eq]
    exact Pointer.isAncestor_append
  have hown : ∀ e ∈ c.schemaRefs, e.1 ≠ own → isAncestor e.1 own false = false := by
    intro e he hn
    rw [h.location_eq] at hn ⊢
    exact not_isAncestor_noted hall he h.reference fun heq => absurd heq hn
  have hread : ∃ p', (Pointer.parse? ancestor).map Pointer.compile = some p' ∧
      ∀ e ∈ c.schemaRefs, isAncestor e.2 e.1 true = true → isAncestor e.1 p' false = false := by
    by_cases hslash : ancestor = "/"
    case pos =>
      refine ⟨"", by rw [hslash]; decide, fun e _ hs => Bool.eq_false_iff.mpr fun he => ?_⟩
      rw [Pointer.eq_of_isAncestor_empty he, Pointer.not_isAncestor_empty] at hs
      contradiction
    case neg =>
      obtain ⟨members, hm⟩ := h.enclosing
      rw [h.ancestor_eq] at hslash ha ⊢
      refine ⟨ofPath p, map_compile_parse?_ofPath.mpr hslash, fun e he _ => not_isAncestor_noted hall he hm fun _ text ht => ?_⟩
      have hb : ∀ slot ∈ p, slot.Bounded := fun slot hs => h.bounded slot (List.mem_append_left q hs)
      exact not_hasControl_reference (ht ▸ Json.at?_ofPath hb hslash hm) ha
  obtain ⟨p', hp', hn⟩ := hread
  rw [itemsPlace, Pointer.fold?_of_get? hc hl hstrict hp' hown hn, Option.getD_some, hp']

theorem canonical_slotPlace? (hp : Canonical place) (h : slotPlace? node place slot = some own) : Canonical own := by
  have hchild : ∀ {p key : String}, Canonical p → key ≠ "" → Canonical (Pointer.child p key) := fun hp hk =>
    Pointer.canonical_child hp (.inl hk)
  have hinner : ∀ {outer key : String}, outer ≠ "" → Canonical (Pointer.child (Pointer.child place outer) key) := fun ho =>
    Pointer.canonical_child (hchild hp ho) (.inr Pointer.child_ne_empty)
  unfold slotPlace? at h
  repeat' split at h
  all_goals try contradiction
  all_goals obtain rfl := Option.some.inj h
  · rw [Pointer.append_eq_child_child "properties" (by decide)]
    exact hinner (by decide)
  · rw [Pointer.append_eq_child "additionalProperties" (by decide)]
    exact hchild hp (by decide)
  · rw [← Pointer.escape_toString, Pointer.append_eq_child_child "items" (by decide)]
    exact hinner (by decide)
  · rw [Pointer.append_eq_child "additionalItems" (by decide)]
    exact hchild hp (by decide)
  · rw [Pointer.append_eq_child "items" (by decide)]
    exact hchild hp (by decide)

theorem canonical_buildPlace? {p : String} (hc : Canonical own) (h : buildPlace? root c node slot own = some p) : Canonical p := by
  unfold buildPlace? at h
  repeat' split at h
  all_goals first | contradiction | exact canonical_of_referredPlace? h | skip
  case h_1.isFalse => exact Option.some.inj h ▸ hc
  case isTrue => exact Option.some.inj h ▸ hc
  case isFalse => exact Option.some.inj h ▸ canonical_itemsPlace hc

theorem canonical_controlPlace? (h : controlPlace? root c path = some place) : Canonical place := by
  unfold controlPlace? at h
  have hstart := Pointer.canonical_empty
  generalize "" = start at h hstart
  induction path generalizing start
  case nil => exact Option.some.inj h ▸ hstart
  case cons slot path hi =>
    obtain ⟨p, hp, h⟩ := Option.bind_eq_some_iff.mp h
    obtain ⟨schema, _, hp⟩ := Option.bind_eq_some_iff.mp hp
    obtain ⟨own, hown, hp⟩ := Option.bind_eq_some_iff.mp hp
    exact hi p h (canonical_buildPlace? (canonical_slotPlace? hstart hown) hp)

end Items

-- Whether what is followed from a slot to the ancestor that it repeats comes to the ancestor: a reference under a name
-- has to read back, the place of further items only has to be a pointer, and the slots of a tuple are not followed.
def Follows (node : Dict Json) (slot : Slot) (ancestor : String) : Prop :=
  match slot with
  | .member _ => Percent.decode ancestor = ancestor ∧ ancestor ≠ "/"
  | .item _ => isTupleSlot node slot = false ∧ ancestor ≠ "/"

-- Where a slot that repeats an ancestor is followed to.
theorem buildPlace?_of_noted (hall : AllNoted root c.schemaRefs) (hc : Pointer.Canonical own)
    (hl : Dict.get? c.schemaRefs own = some ancestor) (ha : HasControl root ancestor) :
    (buildPlace? root c node slot own = some ancestor ↔ Follows node slot ancestor) ∧
      (isTupleSlot node slot = true → buildPlace? root c node slot own = some own ∧ ¬HasControl root own) := by
  obtain ⟨p, q, h⟩ := hall _ _ hl
  have hat := h.at? hc
  have hown : ¬HasControl root own := not_hasControl_reference hat
  cases slot
  case member name =>
    refine ⟨?_, nofun⟩
    have hk : ControlKind.ofSchema (.obj [("$ref", .str ("#" ++ ancestor))]) = .reference := by
      simp [ControlKind.ofSchema, ControlKind.typeNames, Dict.has, Dict.get?]
    have hr : referredPlace? (.obj [("$ref", .str ("#" ++ ancestor))]) = Reference.target? ("#" ++ ancestor) := rfl
    simp only [buildPlace?, hat, hk, if_true, hr, Reference.target?_fragment, Follows]
    rw [h.ancestor_eq]
    exact Pointer.map_compile_parse?_fragment
  case item i =>
    have hplace := itemsPlace_of_noted hall hc hl ha
    cases ht : isTupleSlot node (.item i)
    case true =>
      have hne : own ≠ ancestor := fun he => hown (he ▸ ha)
      simp [buildPlace?, Follows, ht, hne, hown]
    case false =>
      refine ⟨?_, fun hf => absurd hf Bool.false_ne_true⟩
      simp only [buildPlace?, Follows, ht, Bool.false_eq_true, if_false, true_and]
      rw [← hplace, h.ancestor_eq]
      exact map_compile_parse?_ofPath

end Builder

namespace Compilation

open Builder

variable {out : Compilation} {path : Path} {slot : Slot} {ancestor : String} {node : Dict Json}

-- The place from whose schema the control at the end of a path is built.
def controlPlace? (out : Compilation) (path : Path) : Option String := Builder.controlPlace? out.schema out.context path

-- The keywords of the schema there.
def controlNode? (out : Compilation) (path : Path) : Option (Dict Json) :=
  ((out.controlPlace? path).bind out.schema.at?).map schemaNode

-- The ancestor that the schema for a slot of the control at the end of a path is noted to repeat.
def repeated? (out : Compilation) (path : Path) (slot : Slot) : Option String := do
  let place ← out.controlPlace? path
  let node ← out.controlNode? path
  let own ← slotPlace? node place slot
  out.context.schemaRefs.get? own

theorem controlPlace?_concat {place : String} (hp : out.controlPlace? path = some place) :
    out.controlPlace? (path ++ [slot]) = slotControlPlace? out.schema out.context place slot := by
  have hp : path.foldlM (slotControlPlace? out.schema out.context) "" = some place := hp
  rw [controlPlace?, Builder.controlPlace?, List.foldlM_append, hp]
  simp

end Compilation

open Builder

section Compiled

variable {schema data v : Json} {out : Compilation} {path : Path} {slot : Slot} {node : Dict Json} {ancestor : String}
  {t : Template} {o : Option Template}

theorem madeFrom_of_compiles (h : Compiles schema data false out) (ht : out.template = some t) :
    MadeFrom out.schema out.context "" data t := by
  obtain ⟨c, levels, _, hb⟩ := h
  have hg : c.GrowsTo out.context := (within_succ hb).1
  exact ⟨levels, c, out.context, "", "", t, ⟨hg.schemaRefs.symm, hg.dataRefs.symm, hg.arrays.symm⟩, ht ▸ hb, .inl rfl⟩

theorem allNoted_of_compiles (hd : schema.Distinct) (hs : schema.Short) (h : Compiles schema data false out) :
    AllNoted out.schema out.context.schemaRefs := by
  obtain ⟨c, levels, hr, hb⟩ := h
  have hg : c.GrowsTo out.context := (within_succ hb).1
  exact hg.schemaRefs ▸ allNoted_of_resolve? hd hs hr

-- A slot for which there is data has a control exactly if the place that it is followed to has one, and then it is made
-- from the schema there and the data.
theorem slot_follows_data (h : Compiles schema data false out) (ht : out.template.bind (·.follow? path) = some t)
    (ho : t.slot? slot = some o) (hv : data.follow? (path ++ [slot]) = some v) (hn : v.isNull = false) :
    (o.isSome ↔ ∃ p, out.controlPlace? (path ++ [slot]) = some p ∧ HasControl out.schema p) ∧
      ∀ t', o = some t' → ∃ p, out.controlPlace? (path ++ [slot]) = some p ∧ MadeFrom out.schema out.context p v t' := by
  obtain ⟨root, hroot, ht⟩ := Option.bind_eq_some_iff.mp ht
  rw [Json.follow?_append] at hv
  obtain ⟨outer, houter, hv⟩ := Option.bind_eq_some_iff.mp hv
  have hv : outer.atSlot? slot = some v := by simpa using hv
  have hn' : outer.isNull = false := by
    cases outer <;> first | rfl | contradiction
  obtain ⟨place, hp, hmade⟩ := (madeFrom_of_compiles h hroot).follow ht houter hn'
  rw [Compilation.controlPlace?_concat hp]
  exact hmade.atSlot ho hv hn

-- If the schema for the slot repeats an ancestor, the place that it is followed to is the ancestor exactly if the slot is
-- none of a tuple and the reference to the ancestor reads back.  In the slots of tuples there is no control.
theorem repetitions_follow_data (hd : schema.Distinct) (hs : schema.Short) (h : Compiles schema data false out)
    (ht : out.template.bind (·.follow? path) = some t) (ho : t.slot? slot = some o)
    (hv : data.follow? (path ++ [slot]) = some v) (hn : v.isNull = false) (hnode : out.controlNode? path = some node)
    (hr : out.repeated? path slot = some ancestor) (ha : HasControl out.schema ancestor) :
    let place := out.controlPlace? (path ++ [slot])
    (o.isSome ↔ ∃ p, place = some p ∧ HasControl out.schema p) ∧
      (∀ t', o = some t' → ∃ p, place = some p ∧ MadeFrom out.schema out.context p v t') ∧
      (place = some ancestor ↔ Follows node slot ancestor) ∧ (isTupleSlot node slot = true → o = none) := by
  intro place
  have ⟨hsome, hcontrol⟩ := slot_follows_data h ht ho hv hn
  obtain ⟨outer, hp, hr⟩ := Option.bind_eq_some_iff.mp hr
  obtain ⟨_, hnode', hr⟩ := Option.bind_eq_some_iff.mp hr
  obtain rfl := Option.some.inj (hnode.symm.trans hnode')
  obtain ⟨own, hown, hl⟩ := Option.bind_eq_some_iff.mp hr
  obtain ⟨schema', hschema, rfl⟩ := Option.map_eq_some_iff.mp hnode
  rw [hp, Option.bind_some] at hschema
  have hbuild : place = buildPlace? out.schema out.context (schemaNode schema') slot own := by
    show out.controlPlace? (path ++ [slot]) = _
    rw [Compilation.controlPlace?_concat hp, slotControlPlace?, hschema, Option.bind_some, hown, Option.bind_some]
  have hc := canonical_slotPlace? (canonical_controlPlace? hp) hown
  have ⟨hfollows, htuple⟩ : (buildPlace? out.schema out.context (schemaNode schema') slot own = some ancestor ↔ _) ∧ _ :=
    buildPlace?_of_noted (allNoted_of_compiles hd hs h) hc hl ha
  refine ⟨hsome, hcontrol, hbuild ▸ hfollows, fun hslot => ?_⟩
  have ⟨hself, hnone⟩ := htuple hslot
  by_contra ho'
  obtain ⟨p, hp', hc'⟩ := hsome.mp (Option.isSome_iff_ne_none.mpr ho')
  have hp' : place = some p := hp'
  rw [hbuild, hself] at hp'
  exact hnone (Option.some.inj hp' ▸ hc')

end Compiled

-- The children of a person are persons.
theorem repetitions_follow_person : ∃ out t t', Compiles personSchema person false out ∧
    out.template.bind (·.follow? [.member "children"]) = some t ∧ t.slot? (.item 0) = some (some t') ∧
    MadeFrom out.schema out.context "" (.obj [("name", "joan")]) t' := by
  have hc : (compile? personSchema person false).bind (fun out =>
      (out.template.bind (·.follow? [.member "children"])).bind fun t =>
        (t.slot? (.item 0)).bind fun _ => (out.controlNode? [.member "children"]).map fun node =>
          (isTupleSlot node (.item 0), out.repeated? [.member "children"] (.item 0),
            (out.schema.at? "").map ControlKind.ofSchema)) = some (false, some "", some .group) := by decide +kernel
  obtain ⟨out, hout, hc⟩ := Option.bind_eq_some_iff.mp hc
  obtain ⟨t, ht, hc⟩ := Option.bind_eq_some_iff.mp hc
  obtain ⟨o, ho, hc⟩ := Option.bind_eq_some_iff.mp hc
  obtain ⟨node, hnode, hc⟩ := Option.map_eq_some_iff.mp hc
  obtain ⟨htuple, hc⟩ := Prod.mk.inj hc
  obtain ⟨hr, hkind⟩ := Prod.mk.inj hc
  obtain ⟨root, hroot, hkind⟩ := Option.map_eq_some_iff.mp hkind
  have ha : HasControl out.schema "" := ⟨root, hroot, by simp [hkind]⟩
  have hd : personSchema.Distinct := by simp [personSchema, Json.Distinct, Json.DistinctMembers, Dict.keys, Json.ofNat, Json.ofInt]
  have hs : personSchema.Short := fun items hi => by
    simp [personSchema, Json.parts, Json.partsOfMembers, Json.ofNat, Json.ofInt] at hi
  have hv : person.follow? ([.member "children"] ++ [.item 0]) = some (.obj [("name", "joan")]) := rfl
  have hcompiles := compiles_of_compile? hout
  obtain ⟨hsome, hcontrol, hplace, _⟩ := repetitions_follow_data hd hs hcompiles ht ho hv rfl hnode hr ha
  have hplace := hplace.mpr ⟨htuple, by decide⟩
  obtain ⟨t', rfl⟩ := Option.isSome_iff_exists.mp (hsome.mpr ⟨"", hplace, ha⟩)
  obtain ⟨p, hp, hmade⟩ := hcontrol t' rfl
  obtain rfl := Option.some.inj (hplace.symm.trans hp)
  exact ⟨out, t, t', hcompiles, ht, ho, hmade⟩

-- A list whose first item is a list of the same kind.
def nestedTuples : Json := .obj [("items", .arr [.obj [("$ref", "#")]])]

-- There is a list in the first slot of the data, and its schema repeats the root, but there is no control in the slot.
theorem nestedTuples_do_not_follow : ∃ out t, Compiles nestedTuples (.arr [.arr []]) false out ∧
    out.repeated? [] (.item 0) = some "" ∧ HasControl out.schema "" ∧ out.template = some t ∧ t.kind = "list" ∧
    t.slot? (.item 0) = some none := by
  have hc : (compile? nestedTuples (.arr [.arr []]) false).bind (fun out => out.template.bind fun t =>
      (t.slot? (.item 0)).map fun o => (out.repeated? [] (.item 0), (out.schema.at? "").map ControlKind.ofSchema, t.kind,
        o.isSome)) = some (some "", some .list, "list", false) := by decide +kernel
  obtain ⟨out, hout, hc⟩ := Option.bind_eq_some_iff.mp hc
  obtain ⟨t, ht, hc⟩ := Option.bind_eq_some_iff.mp hc
  obtain ⟨o, ho, hc⟩ := Option.map_eq_some_iff.mp hc
  obtain ⟨hr, hc⟩ := Prod.mk.inj hc
  obtain ⟨hkind, hc⟩ := Prod.mk.inj hc
  obtain ⟨hlist, hnone⟩ := Prod.mk.inj hc
  obtain ⟨root, hroot, hkind⟩ := Option.map_eq_some_iff.mp hkind
  obtain rfl : o = none := by simpa using hnone
  exact ⟨out, t, compiles_of_compile? hout, hr, ⟨root, hroot, by simp [hkind]⟩, ht, hlist, ho⟩

end FormModel
