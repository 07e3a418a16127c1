import FormModel.Proofs.Build.Moment
import FormModel.Proofs.Build.Slots
import FormModel.Proofs.Pointer.NormalForm

/-!
What is written while a form is built.  Options are noted and entries of the library are made under keys that fold no
further, and what is noted of a place leaves alone what has been noted of it before; so it is from one moment to the
next, however deep in calls.
-/

namespace FormModel

namespace NodeOptions

variable {o o' o'' : NodeOptions}

-- Whether everything that has been learnt of a place is still there.
structure KeptIn (o o' : NodeOptions) : Prop where
  schemaPointer : ∀ v, o.schemaPointer = some v → o'.schemaPointer = some v
  schemaType : ∀ v, o.schemaType = some v → o'.schemaType = some v
  schemaFormat : ∀ v, o.schemaFormat = some v → o'.schemaFormat = some v
  templatePointer : ∀ v, o.templatePointer = some v → o'.templatePointer = some v
  templateType : ∀ v, o.templateType = some v → o'.templateType = some v
  tupleItems : ∀ v, o.tupleItems = some v → o'.tupleItems = some v
  listItems : ∀ v, o.listItems = some v → o'.listItems = some v
  minItems : ∀ v, o.minItems = some v → o'.minItems = some v
  maxItems : ∀ v, o.maxItems = some v → o'.maxItems = some v
  disabled : o.disabled = true → o'.disabled = true
  required : o.required ≠ [] → o'.required = o.required

theorem KeptIn.refl : o.KeptIn o := by constructor <;> simp

theorem KeptIn.trans (h : o.KeptIn o') (h' : o'.KeptIn o'') : o.KeptIn o'' where
  schemaPointer v hv := h'.schemaPointer v (h.schemaPointer v hv)
  schemaType v hv := h'.schemaType v (h.schemaType v hv)
  schemaFormat v hv := h'.schemaFormat v (h.schemaFormat v hv)
  templatePointer v hv := h'.templatePointer v (h.templatePointer v hv)
  templateType v hv := h'.templateType v (h.templateType v hv)
  tupleItems v hv := h'.tupleItems v (h.tupleItems v hv)
  listItems v hv := h'.listItems v (h.listItems v hv)
  minItems v hv := h'.minItems v (h.minItems v hv)
  maxItems v hv := h'.maxItems v (h.maxItems v hv)
  disabled hd := h'.disabled (h.disabled hd)
  required hr := (h'.required (h.required hr ▸ hr)).trans (h.required hr)

-- Whether a note adds to what has been learnt of a place and takes nothing of it back.
def Adds (f : NodeOptions → NodeOptions) : Prop := ∀ o : NodeOptions, o.KeptIn (f o)

theorem adds_describe {node : Dict Json} {kind : ControlKind} {site : Site} : Adds (·.describe node kind site) := by
  intro o
  constructor <;> simp +contextual [describe]

theorem adds_bound {minItems maxItems : Nat} : Adds (·.bound minItems maxItems) := by
  intro o
  constructor <;> simp +contextual [bound]

theorem adds_requireNames {names : List String} : Adds (·.requireNames names) := by
  intro o
  show o.KeptIn (o.requireNames names)
  unfold requireNames
  split
  case isTrue h => constructor <;> simp_all
  case isFalse => exact .refl

theorem adds_slots {n : Nat} : Adds (·.slots n) := by
  intro o
  constructor <;> simp +contextual [slots]

theorem adds_start {n : Nat} : Adds (·.start n) := by
  intro o
  constructor <;> simp +contextual [start]

end NodeOptions

namespace Context

variable {c : Context} {key pointer : String}

-- Whether a pointer to data folds no further.
structure IsKey (c : Context) (key : String) : Prop where
  generic : Pointer.Generic c.arrays key
  folded : Pointer.Folded c.dataRefs key

theorem IsKey.generic_eq (h : c.IsKey key) : c.generic key = key := by
  rw [Context.generic, Pointer.fold?_self h.generic h.folded, Option.getD_some]

theorem IsKey.written (h : c.IsKey key) : Pointer.Written key := h.generic.written

theorem isKey_generic (h : Pointer.Written pointer) : c.IsKey (c.generic pointer) := by
  obtain ⟨tokens, rfl⟩ := h
  obtain ⟨_, hp, _⟩ := Pointer.exists_parse?_compile tokens
  obtain ⟨key, hk, hg, hf⟩ := Pointer.exists_fold? c.dataRefs c.arrays hp
  rw [generic, hk, Option.getD_some]
  exact ⟨hg, hf⟩

-- What is written to a context `d` at one time, under keys of `c`: a note of a place, an entry of the library, or nothing.
inductive Writes (c d : Context) : Context → Prop
  | nothing : Writes c d d
  | note {key : String} {f : NodeOptions → NodeOptions} : c.IsKey key → NodeOptions.Adds f → Writes c d (d.learn key f)
  | enter {key : String} {entry : LibraryEntry} : c.IsKey key → Writes c d (d.setEntry key entry)
  | drop {key : String} : Writes c d (d.dropEntry key)

end Context

namespace Builder

variable {c c' : Context}

theorem SameMaps.generic (h : SameMaps c c') : c'.generic = c.generic := by
  funext pointer
  rw [Context.generic, Context.generic, h.dataRefs, h.arrays]

namespace Program

variable {α β : Type} {p : Program α} {f : α → Program β}

-- Whether all that a program writes is written under keys of a context, takes back nothing that has been learnt, and
-- all places that it builds are at pointers as they are written, as long as the maps are those of the context.
def Orderly (c : Context) : Program α → Prop
  | done _ => True
  | look next => ∀ c', SameMaps c c' → (next c').Orderly c
  | learn key f next => c.IsKey key ∧ NodeOptions.Adds f ∧ next.Orderly c
  | call site next => Pointer.Written site.dataPointer ∧ ∀ o, (next o).Orderly c
  | enter key _ _ next => c.IsKey key ∧ next.Orderly c

theorem Orderly.bind (hp : p.Orderly c) (hf : ∀ a, (f a).Orderly c) : (p >>= f).Orderly c := by
  show (p.bind f).Orderly c
  induction p
  case done a => exact hf a
  case look next hi => exact fun c' hm => hi c' (hp c' hm)
  case learn next hi => exact ⟨hp.1, hp.2.1, hi hp.2.2⟩
  case call next hi => exact ⟨hp.1, fun o => hi o (hp.2 o)⟩
  case enter next hi => exact ⟨hp.1, hi hp.2⟩

theorem orderly_context_bind {f : Context → Program β} (hf : ∀ c', SameMaps c c' → (f c').Orderly c) :
    (context >>= f).Orderly c := hf

theorem orderly_note {key : String} {f : NodeOptions → NodeOptions} (hk : c.IsKey key) (hf : NodeOptions.Adds f) :
    (note key f).Orderly c := ⟨hk, hf, trivial⟩

theorem orderly_control {site : Site} (h : Pointer.Written site.dataPointer) : (control site).Orderly c :=
  ⟨h, fun _ => trivial⟩

theorem orderly_repeated {key schemaPointer templatePointer : String} (h : c.IsKey key) :
    (repeated key schemaPointer templatePointer).Orderly c := ⟨h, trivial⟩

section Pieces

variable {root schema : Json} {fillDefaults recursive : Bool} {site item child : Site} {node : Dict Json}
  {names : List String} {rules : RuleBag} {generic key place name : String} {items : List Json}
  {minItems maxItems slots i count : Nat}

theorem written_propertySite? (hs : Pointer.Written site.dataPointer) (h : propertySite? node site name = some child) :
    Pointer.Written child.dataPointer := by
  obtain ⟨_, _, rfl⟩ := Option.map_eq_some_iff.mp h
  exact hs.child

theorem written_dataLocation? {target : String} (h : Pointer.dataLocation? root target = some place) :
    Pointer.Written place := by
  obtain ⟨_, _, h⟩ := Option.bind_eq_some_iff.mp h
  obtain ⟨tokens, _, rfl⟩ := Option.map_eq_some_iff.mp h
  exact ⟨tokens, rfl⟩

theorem orderly_ofReference (hs : Pointer.Written site.dataPointer) : (ofReference root site).Orderly c := by
  unfold ofReference
  split
  case h_1 => trivial
  case h_2 =>
    split
    case isTrue => trivial
    case isFalse =>
      split
      case h_1 => trivial
      case h_2 =>
        split
        case isTrue => exact fun _ _ => trivial
        case isFalse => exact orderly_control hs

theorem orderly_ofProperties {controls : Dict (Option Template)} (hs : Pointer.Written site.dataPointer) :
    (ofProperties root node site names controls).Orderly c := by
  induction names generalizing controls
  case nil => trivial
  case cons name names hi =>
    unfold ofProperties
    split
    case h_1 => exact hi
    case h_2 child hc =>
      have hchild := written_propertySite? hs hc
      refine (orderly_control hchild).bind fun o => ?_
      split
      case isTrue => exact hi
      case isFalse => exact (orderly_ofReference hchild).bind fun _ => hi

theorem orderly_ofGroup (hs : Pointer.Written site.dataPointer) (hk : c.IsKey generic) :
    (ofGroup root schema rules generic site).Orderly c := by
  unfold ofGroup
  refine (orderly_ofProperties hs).bind fun controls => ?_
  split
  case h_1 => exact (orderly_note hk NodeOptions.adds_requireNames).bind fun _ => trivial
  case h_2 => trivial

theorem orderly_ofItem (hi : Pointer.Written item.dataPointer) : (ofItem items recursive key item i).Orderly c := by
  unfold ofItem
  split
  case isTrue => exact orderly_control hi
  case isFalse =>
    split
    case isTrue => trivial
    case isFalse => exact fun _ _ => trivial

theorem orderly_ofSlot (hs : Pointer.Written site.dataPointer) (hk : c.IsKey generic) :
    (ofSlot generic site items minItems i).Orderly c := by
  unfold ofSlot
  dsimp only
  split
  case isTrue => exact orderly_control hs.item
  case isFalse =>
    refine orderly_context_bind fun c' hm => ?_
    rw [hm.generic]
    exact (orderly_repeated (c.isKey_generic hk.written.item)).bind fun _ => orderly_ofItem hs.item

theorem orderly_ofSlots (hs : Pointer.Written site.dataPointer) (hk : c.IsKey generic) :
    (ofSlots generic site items minItems i count).Orderly c := by
  induction count generalizing i
  case zero => trivial
  case succ count hi => exact (orderly_ofSlot hs hk).bind fun _ => hi.bind fun _ => trivial

theorem orderly_ofItems (hs : Pointer.Written site.dataPointer) :
    (ofItems site place items recursive key i count).Orderly c := by
  induction count generalizing i
  case zero => trivial
  case succ count hi => exact (orderly_ofItem hs.item).bind fun _ => hi.bind fun _ => trivial

theorem orderly_ofFurtherItems (hs : Pointer.Written site.dataPointer) (hk : c.IsKey generic) :
    (ofFurtherItems generic site items place slots minItems maxItems).Orderly c := by
  unfold ofFurtherItems
  refine orderly_context_bind fun c' hm => ?_
  dsimp only
  rw [hm.generic]
  refine (orderly_repeated (c.isKey_generic hk.written.dash)).bind fun _ => ?_
  exact (orderly_note hk NodeOptions.adds_start).bind fun _ => orderly_ofItems hs

theorem orderly_further {controls : List (Option Template)} (hs : Pointer.Written site.dataPointer) (hk : c.IsKey generic) :
    Orderly c (do
      let further ←
        match itemsSchema? node site maxItems with
        | some place => ofFurtherItems generic site items place slots minItems maxItems
        | none => pure []
      return Template.list (controls ++ further) rules) := by
  dsimp only
  split
  case h_1 => exact (orderly_ofFurtherItems hs hk).bind fun _ => trivial
  case h_2 => trivial

theorem orderly_ofList (hs : Pointer.Written site.dataPointer) (hk : c.IsKey generic) :
    (ofList node rules generic site).Orderly c := by
  unfold ofList
  refine orderly_context_bind fun c' hm => (orderly_note hk NodeOptions.adds_bound).bind fun _ => ?_
  dsimp only
  split
  case h_1 =>
    exact (orderly_note hk NodeOptions.adds_slots).bind fun _ => (orderly_ofSlots hs hk).bind fun _ => orderly_further hs hk
  case h_2 => exact orderly_further hs hk

theorem orderly_ofNode (hs : Pointer.Written site.dataPointer) : (ofNode root fillDefaults site).Orderly c := by
  unfold ofNode
  split
  case h_1 => trivial
  case h_2 schema _ =>
    dsimp only
    split
    case h_1 =>
      split
      case h_1 => trivial
      case h_2 target _ =>
        refine orderly_context_bind fun c' hm => ?_
        split
        case h_1 => trivial
        case h_2 key hk =>
          obtain ⟨location, hl, rfl⟩ := Option.map_eq_some_iff.mp hk
          rw [hm.generic]
          exact (orderly_repeated (c.isKey_generic (written_dataLocation? hl))).bind fun _ => trivial
    case h_2 =>
      refine orderly_context_bind fun c' hm => ?_
      rw [hm.generic]
      have hkey := c.isKey_generic hs
      refine (orderly_note hkey NodeOptions.adds_describe).bind fun _ => ?_
      split
      case h_1 => exact Orderly.bind (orderly_ofGroup hs hkey) fun _ => trivial
      case h_2 => exact Orderly.bind (orderly_ofList hs hkey) fun _ => trivial
      case h_3 => exact fun _ _ => trivial

end Pieces

end Program

-- A call that goes on in order, whatever control it is given.
def Frame.Orderly (c : Context) : Frame → Prop
  | node next => ∀ o, (next o).Orderly c
  | entry key next => c.IsKey key ∧ next.Orderly c

namespace Moment

-- Whether all that is still to be done is done in order, with the maps of the context that building was begun with.
structure Orderly (c : Context) (m : Moment) : Prop where
  maps : SameMaps c m.context
  program : m.program.Orderly c
  calls : ∀ frame ∈ m.calls, frame.Orderly c

variable {root data : Json} {fillDefaults : Bool} {m m' : Moment} {d d' : Context} {p : Program (Option Template)}
  {calls : List Frame}

theorem orderly_start : Orderly c ⟨c, Program.ofNode root fillDefaults ⟨"", data, "", ""⟩, []⟩ := by
  have hp : (Program.ofNode root fillDefaults ⟨"", data, "", ""⟩).Orderly c := Program.orderly_ofNode ⟨[], rfl⟩
  exact ⟨⟨rfl, rfl, rfl⟩, hp, nofun⟩

theorem orderly_of_writes (hm : SameMaps c d) (hw : c.Writes d d') (hp : p.Orderly c)
    (hc : ∀ frame ∈ calls, frame.Orderly c) : Orderly c ⟨d', p, calls⟩ ∧ c.Writes d d' := by
  refine ⟨⟨?_, hp, hc⟩, hw⟩
  cases hw <;> exact ⟨hm.schemaRefs, hm.dataRefs, hm.arrays⟩

-- What is in order stays so, and what is written from one moment to the next is written under keys.
theorem Orderly.next (ho : m.Orderly c) (h : m.next? root fillDefaults = some m') :
    m'.Orderly c ∧ c.Writes m.context m'.context := by
  obtain ⟨hm, hp, hc⟩ := ho
  cases Next.of_next? h
  case look => exact orderly_of_writes hm .nothing (hp _ hm) hc
  case learn => exact orderly_of_writes hm (.note hp.1 hp.2.1) hp.2.2 hc
  case call =>
    exact orderly_of_writes hm .nothing (Program.orderly_ofNode hp.1) (List.forall_mem_cons.mpr ⟨hp.2, hc⟩)
  case found => exact orderly_of_writes hm .nothing hp.2 hc
  case enter =>
    exact orderly_of_writes hm (.enter hp.1) (Program.orderly_ofNode hp.1.written) (List.forall_mem_cons.mpr ⟨hp, hc⟩)
  case result =>
    have ⟨hf, hc⟩ := List.forall_mem_cons.mp hc
    exact orderly_of_writes hm .nothing (hf _) hc
  case store =>
    have ⟨hf, hc⟩ := List.forall_mem_cons.mp hc
    exact orderly_of_writes hm (.enter hf.1) hf.2 hc
  case drop =>
    have ⟨hf, hc⟩ := List.forall_mem_cons.mp hc
    exact orderly_of_writes hm .drop hf.2 hc

end Moment

end Builder

end FormModel
