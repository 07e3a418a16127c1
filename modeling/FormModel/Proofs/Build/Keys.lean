import FormModel.Proofs.Build.Mirror
import FormModel.Proofs.Build.Writes

/-!
The keys under which a form is described.  They are made by adding to keys and folding again, and each of them folds no
further: it is its own generic pointer.
-/

namespace FormModel

namespace Context

variable {c d d' : Context} {key : String}

-- Whether what is known of places, and what is in the library, is under keys of `c`.
structure Keyed (c d : Context) : Prop where
  options : ∀ {key}, Dict.has d.options key → c.IsKey key
  library : ∀ {key}, Dict.has d.library key → c.IsKey key

theorem IsKey.of_has_insert {α : Type} {entries : Dict α} {key' : String} {v : α} (hk : c.IsKey key)
    (he : Dict.has entries key' → c.IsKey key') (h : Dict.has (Dict.insert entries key v) key') : c.IsKey key' := by
  rw [Dict.has, Dict.get?_insert] at h
  split at h
  case isTrue heq => exact heq ▸ hk
  case isFalse => exact he h

theorem Writes.keyed (hw : c.Writes d d') (hd : c.Keyed d) : c.Keyed d' := by
  cases hw
  case nothing => exact hd
  case note hk _ => exact ⟨hk.of_has_insert hd.options, hd.library⟩
  case enter hk => exact ⟨hd.options, hk.of_has_insert hd.library⟩
  case drop =>
    refine ⟨hd.options, fun {key'} h => hd.library ?_⟩
    rw [dropEntry, Dict.has, Dict.get?_erase] at h
    split at h
    case isTrue => contradiction
    case isFalse => exact h

end Context

namespace Builder.Moment

variable {c : Context} {root : Json} {fillDefaults : Bool} {m m' : Moment}

theorem Orderly.keyed_of_reaches (ho : m.Orderly c) (hk : c.Keyed m.context) (h : Reaches root fillDefaults m m') :
    m'.Orderly c ∧ c.Keyed m'.context := by
  induction h
  case refl => exact ⟨ho, hk⟩
  case tail _ hn hi =>
    have ⟨ho', hw⟩ := hi.1.next hn
    exact ⟨ho', hw.keyed hi.2⟩

end Builder.Moment

-- Whatever a form is made of, what is known of its places and its library are under keys that are their own generic
-- pointers.
theorem generic_recorded_key {schema data : Json} {fillDefaults : Bool} {out : Compilation} {key : String}
    (h : Compiles schema data fillDefaults out)
    (hk : key ∈ Dict.keys out.context.options ∨ key ∈ Dict.keys out.context.library) :
    Pointer.fold? out.context.dataRefs out.context.arrays key = some key ∧ out.context.generic key = key := by
  obtain ⟨c, levels, hr, hb⟩ := h
  have hempty : c.Keyed c := by
    constructor <;> simp [Context.options_of_resolve? hr, Context.library_of_resolve? hr, Context.empty, Dict.has]
  have hreach : Builder.Moment.Reaches out.schema fillDefaults ⟨c, _, []⟩ _ := Builder.Moment.passes_within.ok hb
  obtain ⟨ho, hkeyed⟩ := Builder.Moment.orderly_start.keyed_of_reaches hempty hreach
  have hkey : c.IsKey key := by
    simp only [← Dict.has_iff_mem_keys] at hk
    exact hk.elim hkeyed.options hkeyed.library
  rw [ho.maps.generic, ho.maps.dataRefs, ho.maps.arrays]
  exact ⟨Pointer.fold?_self hkey.generic hkey.folded, hkey.generic_eq⟩

-- The pets of the children of a child are described with the pets of the person, and so are their names.
theorem generic_recorded_key_person : ∃ out, Compiles personSchema person false out ∧
    Dict.keys out.context.options = ["", "/name", "/children", "/pets", "/pets/-", "/pets/-/name"] ∧
    Dict.keys out.context.library = ["", "/pets/-"] ∧
    out.context.generic "/children/0/children/1/pets/2/name" = "/pets/-/name" ∧
    out.context.generic "/pets/-/name" = "/pets/-/name" ∧ out.context.generic "" = "" := by
  have hc : (compile? personSchema person false).map (fun out => (Dict.keys out.context.options,
      Dict.keys out.context.library, out.context.generic "/children/0/children/1/pets/2/name")) =
      some (["", "/name", "/children", "/pets", "/pets/-", "/pets/-/name"], ["", "/pets/-"], "/pets/-/name") := by
    decide +kernel
  obtain ⟨out, hout, hc⟩ := Option.map_eq_some_iff.mp hc
  obtain ⟨hoptions, hc⟩ := Prod.mk.inj hc
  obtain ⟨hlibrary, hgeneric⟩ := Prod.mk.inj hc
  have hcompiles := compiles_of_compile? hout
  have hname : "/pets/-/name" ∈ Dict.keys out.context.options := by simp [hoptions]
  have hroot : "" ∈ Dict.keys out.context.library := by simp [hlibrary]
  exact ⟨out, hcompiles, hoptions, hlibrary, hgeneric, (generic_recorded_key hcompiles (.inl hname)).2,
    (generic_recorded_key hcompiles (.inr hroot)).2⟩

end FormModel
