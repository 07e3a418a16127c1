import FormModel.Proofs.Build.Slots
import FormModel.Proofs.Reference.Visits

/-!
The values in the leaves of a form.  Every leaf holds what the data has at the same place, wherever the
control around it comes from; those in the library hold nothing.
-/

namespace FormModel

-- Every leaf in a control holds what the data has at the end of the path to the leaf, if that is a scalar.
def Mirrors (data : Json) (t : Template) : Prop :=
  ∀ {p value disabled rules}, t.follow? p = some (.leaf value disabled rules) →
    value = ((data.follow? p).getD .null).leafValue

variable {schema data : Json} {t : Template} {slot : Slot} {path : Path} {out : Compilation}

theorem Mirrors.require (h : Mirrors data t) : Mirrors data t.require := by
  intro path value disabled rules ht
  cases path
  case nil =>
    cases t <;> cases Option.some.inj ht
    exact h (p := []) rfl
  case cons slot path =>
    rw [Template.follow?, Template.slot?_require] at ht
    exact h (p := slot :: path) ht

namespace Builder

variable {root : Json} {c c' : Context} {site : Site} {place : String} {levels : Nat} {template : Option Template}

-- The leaves of a control mirror the data if those in all of its slots do.
theorem mirrors_of_pictures (h : Pictures root c (fun _ => Mirrors) place data t) : Mirrors data t := by
  intro path value disabled rules ht
  cases path
  case nil => exact h.leaf (Option.some.inj ht)
  case cons slot path =>
    obtain ⟨t', hs, ht⟩ := Option.bind_eq_some_iff.mp ht
    have ⟨_, _, hf⟩ := h.slots (Option.join_eq_some_iff.mp hs)
    rw [Json.getD_follow?_cons, ← Json.slotValue]
    cases hf
    case built hb => exact hb.control rfl ht
    case copied hv hm => exact hv ▸ hm ht

theorem mirrors_within (hk : Kept c (fun _ => Mirrors) c) (h : within root false levels site c = .ok (template, c')) :
    Kept c (fun _ => Mirrors) c' ∧ ∀ t, template = some t → Mirrors site.data t := by
  have hg : Gives c (fun _ => Mirrors) (within root false levels site) _ :=
    gives_within (fun _ _ _ => Mirrors.require) fun _ _ => mirrors_of_pictures
  have ⟨hk', hb⟩ := hg.ok hk h
  exact ⟨hk', fun t ht => hb.control ht⟩

end Builder

-- The leaves of a compiled form mirror the data, and those of the library hold nothing.
theorem leaves_mirror_data (h : Compiles schema data false out) :
    (∀ t path value disabled rules, out.template = some t → t.follow? path = some (.leaf value disabled rules) →
      value = ((data.follow? path).getD .null).leafValue) ∧
    ∀ key t path value disabled rules, Dict.get? out.context.library key = some (.ready t) →
      t.follow? path = some (.leaf value disabled rules) → value = .null := by
  have ⟨c, levels, hr, hb⟩ := h
  have hk : Builder.Kept c (fun _ => Mirrors) c := .of_library_nil (Context.library_of_resolve? hr)
  obtain ⟨hk', hm⟩ := Builder.mirrors_within hk hb
  refine ⟨fun t path value disabled rules ht hl => hm t ht hl, fun key t path value disabled rules ht hl => ?_⟩
  obtain ⟨_, hm⟩ := hk'.library key (Context.libraryCopy?_eq_some.mpr ht)
  have hv := hm hl
  cases path <;> exact hv

-- Persons with children, who are persons, and with at least one pet.
def personSchema : Json :=
  .obj [("properties", .obj [("name", .obj [("type", "string")]),
    ("children", .obj [("type", "array"), ("items", .obj [("$ref", "#")])]),
    ("pets", .obj [("minItems", .ofNat 1), ("items", .obj [("properties", .obj [("name", .obj [])])])])])]

-- The pets of the child are missing.
def person : Json :=
  .obj [("name", "ada"), ("children", .arr [.obj [("name", "joan")]]), ("pets", .arr [.obj [("name", "tiger")]])]

theorem exists_leaf (h : t.kind = "leaf") : ∃ value disabled rules, t = .leaf value disabled rules := by
  cases t <;> first | exact ⟨_, _, _, rfl⟩ | simp [Template.kind] at h

-- The child is built by going through the schema again, and its pet is taken from the library.
theorem leaves_mirror_person : ∃ t out, Compiles personSchema person false out ∧ out.template = some t ∧
    (∃ disabled rules, t.follow? [.member "children", .item 0, .member "name"] = some (.leaf "joan" disabled rules)) ∧
    ∃ disabled rules, t.follow? [.member "children", .item 0, .member "pets", .item 0, .member "name"] =
      some (.leaf .null disabled rules) := by
  have hc : (compile? personSchema person false).bind (fun out => out.template.map fun t =>
      ((t.follow? [.member "children", .item 0, .member "name"]).map Template.kind,
        (t.follow? [.member "children", .item 0, .member "pets", .item 0, .member "name"]).map Template.kind)) =
      some (some "leaf", some "leaf") := by decide +kernel
  obtain ⟨out, ho, hc⟩ := Option.bind_eq_some_iff.mp hc
  obtain ⟨t, ht, hc⟩ := Option.map_eq_some_iff.mp hc
  obtain ⟨hname, hpet⟩ := Prod.mk.inj hc
  have hcompiles := compiles_of_compile? ho
  obtain ⟨name, hname, hk⟩ := Option.map_eq_some_iff.mp hname
  obtain ⟨pet, hpet, hk'⟩ := Option.map_eq_some_iff.mp hpet
  obtain ⟨_, _, _, rfl⟩ := exists_leaf hk
  obtain ⟨_, _, _, rfl⟩ := exists_leaf hk'
  obtain rfl := (leaves_mirror_data hcompiles).1 _ _ _ _ _ ht hname
  obtain rfl := (leaves_mirror_data hcompiles).1 _ _ _ _ _ ht hpet
  exact ⟨t, out, hcompiles, ht, ⟨_, _, hname⟩, _, _, hpet⟩

end FormModel
