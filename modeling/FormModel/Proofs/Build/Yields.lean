import FormModel.Proofs.Build.Moment
import FormModel.Proofs.Build.Slots

/-!
What controls are put together from.  The control of a place is made from those that calls give and from copies out of
the library, and only those right below a group are changed, by the rule that they need a value.  So what is asked of a
control follows for all that are built, and for the library, if it follows for one from those right below it.
-/

namespace FormModel

-- Whether a schema lists a name as required.
def Json.requires (schema : Json) (name : String) : Bool := ((Template.requiredNames? schema).getD []).contains name

namespace Builder

-- Whether a control is as asked for, if there is one.
def OptionHolds (P : Template → Prop) (o : Option Template) : Prop := ∀ t, o = some t → P t

-- A control for a node of the schema that is put together from others: they are as asked for, but for the rule that those
-- need a value that are listed as required.
inductive Assembled (P : Template → Prop) (node : Json) : Template → Prop
  | group {controls} : (∀ name child, Dict.get? controls name = some (some child) →
    ∃ t, P t ∧ child = t.requiredIf (node.requires name)) → Assembled P node (.group controls (RuleBag.ofControl node))
  | list {controls} : (∀ o ∈ controls, OptionHolds P o) → Assembled P node (.list controls (RuleBag.ofControl node))
  | leaf {value disabled} : Assembled P node (.leaf value disabled (RuleBag.ofControl node))

-- The same, for the node at a place of the schema.
def AssembledAt (root : Json) (P : Template → Prop) (place : String) (t : Template) : Prop :=
  ∃ node, root.at? place = some node ∧ Assembled P node t

variable {α β : Type} {P : Template → Prop} {R : α → Prop} {R' : β → Prop} {root : Json} {fillDefaults : Bool}
  {c c₁ c₂ : Context}

-- A context with the same maps, in whose library there are only controls as asked for.
abbrev Stocked (c : Context) (P : Template → Prop) : Context → Prop := Kept c fun _ _ => P

theorem Stocked.libraryCopy? {key : String} (h : Stocked c P c₁) : OptionHolds P (c₁.libraryCopy? key) := fun _ ht =>
  have ⟨_, hp⟩ := h.library key ht
  hp

namespace Program

variable {p : Program α} {f : α → Program β}

-- Whether the result of a program is as asked for, whatever it is given by calls and by the library that is.
def Yields (c : Context) (P : Template → Prop) (R : α → Prop) : Program α → Prop
  | done a => R a
  | look next => ∀ c', Stocked c P c' → (next c').Yields c P R
  | learn _ _ next => next.Yields c P R
  | call _ next => ∀ o, OptionHolds P o → (next o).Yields c P R
  | enter _ _ _ next => next.Yields c P R

theorem Yields.bind (hp : p.Yields c P R) (hf : ∀ a, R a → (f a).Yields c P R') : (p >>= f).Yields c P R' := by
  show (p.bind f).Yields c P R'
  induction p
  case done a => exact hf a hp
  case look next hi => exact fun c' hk => hi c' (hp c' hk)
  case learn next hi => exact hi hp
  case call next hi => exact fun o ho => hi o (hp o ho)
  case enter next hi => exact hi hp

theorem Yields.imp {R' : α → Prop} (hp : p.Yields c P R) (hr : ∀ a, R a → R' a) : p.Yields c P R' := by
  induction p
  case done a => exact hr a hp
  case look next hi => exact fun c' hk => hi c' (hp c' hk)
  case learn next hi => exact hi hp
  case call next hi => exact fun o ho => hi o (hp o ho)
  case enter next hi => exact hi hp

theorem yields_context_bind {f : Context → Program β} (hf : ∀ c', Stocked c P c' → (f c').Yields c P R') :
    (context >>= f).Yields c P R' := hf

theorem yields_note_bind {generic : String} {g : NodeOptions → NodeOptions} {f : Unit → Program β}
    (hf : (f ()).Yields c P R') : (note generic g >>= f).Yields c P R' := hf

theorem yields_repeated_bind {key schemaPointer templatePointer : String} {f : Unit → Program β}
    (hf : (f ()).Yields c P R') : (repeated key schemaPointer templatePointer >>= f).Yields c P R' := hf

theorem yields_control {site : Site} : (control site).Yields c P (OptionHolds P) := fun _ ho => ho

section Pieces

variable {schema : Json} {recursive : Bool} {site item : Site} {node : Dict Json} {names : List String}
  {rules : RuleBag} {generic key place : String} {items : List Json} {minItems maxItems slots i count : Nat}
  {controls : Dict (Option Template)}

theorem yields_none : (pure none : Program (Option Template)).Yields c P (OptionHolds P) := fun _ h => nomatch h

theorem yields_ofReference : (ofReference root site).Yields c P (OptionHolds P) := by
  unfold ofReference
  split
  case h_1 => exact yields_none
  case h_2 =>
    split
    case isTrue => exact yields_none
    case isFalse =>
      split
      case h_1 => exact yields_none
      case h_2 =>
        split
        case isTrue =>
          refine yields_context_bind fun c' hk t ht => ?_
          obtain ⟨key, _, ht⟩ := Option.bind_eq_some_iff.mp ht
          exact hk.libraryCopy? t ht
        case isFalse => exact yields_control

theorem yields_ofProperties (hc : ∀ name o, controls.get? name = some o → OptionHolds P o) :
    (ofProperties root node site names controls).Yields c P fun controls =>
      ∀ name o, controls.get? name = some o → OptionHolds P o := by
  induction names generalizing controls
  case nil => exact hc
  case cons name names hi =>
    have hinsert {o : Option Template} (ho : OptionHolds P o) :
        ∀ name' o', (controls.insert name o).get? name' = some o' → OptionHolds P o' := by
      intro name' o' hg
      rw [Dict.get?_insert] at hg
      split at hg
      case isTrue => exact Option.some.inj hg ▸ ho
      case isFalse => exact hc name' o' hg
    unfold ofProperties
    split
    case h_1 => exact hi hc
    case h_2 =>
      refine yields_control.bind fun o ho => ?_
      split
      case isTrue => exact hi (hinsert ho)
      case isFalse => exact yields_ofReference.bind fun o ho => hi (hinsert ho)

theorem yields_ofGroup :
    (ofGroup root schema (RuleBag.ofControl schema) generic site).Yields c P (Assembled P schema) := by
  unfold ofGroup
  refine (yields_ofProperties nofun).bind fun controls hc => ?_
  have hgroup : Assembled P schema ((Template.group controls (RuleBag.ofControl schema)).requireFields schema).2 := by
    obtain ⟨controls', he, hg⟩ :=
      Template.requireChildren_group controls (RuleBag.ofControl schema) ((Template.requiredNames? schema).getD [])
    rw [Template.requireFields, he]
    refine .group fun name child hchild => ?_
    rw [hg] at hchild
    obtain ⟨o, ho, hchild⟩ := Option.map_eq_some_iff.mp hchild
    obtain ⟨t, ht, rfl⟩ := Option.map_eq_some_iff.mp hchild
    exact ⟨t, hc name o ho t ht, rfl⟩
  split
  case h_1 => exact yields_note_bind hgroup
  case h_2 => exact hgroup

theorem yields_ofItem : (ofItem items recursive key item i).Yields c P (OptionHolds P) := by
  unfold ofItem
  split
  case isTrue => exact yields_control
  case isFalse =>
    split
    case isTrue => exact yields_none
    case isFalse => exact yields_context_bind fun _ hk => hk.libraryCopy?

theorem yields_ofSlot : (ofSlot generic site items minItems i).Yields c P (OptionHolds P) := by
  unfold ofSlot
  dsimp only
  split
  case isTrue => exact yields_control
  case isFalse => exact yields_context_bind fun _ _ => yields_repeated_bind yields_ofItem

theorem yields_ofSlots : (ofSlots generic site items minItems i count).Yields c P fun controls =>
    ∀ o ∈ controls, OptionHolds P o := by
  induction count generalizing i
  case zero => exact nofun
  case succ count hi =>
    exact yields_ofSlot.bind fun o ho => hi.bind fun controls hc => List.forall_mem_cons.mpr ⟨ho, hc⟩

theorem yields_ofItems : (ofItems site place items recursive key i count).Yields c P fun controls =>
    ∀ o ∈ controls, OptionHolds P o := by
  induction count generalizing i
  case zero => exact nofun
  case succ count hi =>
    exact yields_ofItem.bind fun o ho => hi.bind fun controls hc => List.forall_mem_cons.mpr ⟨ho, hc⟩

theorem yields_ofFurtherItems : (ofFurtherItems generic site items place slots minItems maxItems).Yields c P fun controls =>
    ∀ o ∈ controls, OptionHolds P o := by
  unfold ofFurtherItems
  exact yields_context_bind fun _ _ => yields_repeated_bind (yields_note_bind yields_ofItems)

theorem yields_further {controls : List (Option Template)} (hc : ∀ o ∈ controls, OptionHolds P o) :
    Yields c P (Assembled P schema) (do
      let further ←
        match itemsSchema? node site maxItems with
        | some place => ofFurtherItems generic site items place slots minItems maxItems
        | none => pure []
      return Template.list (controls ++ further) (RuleBag.ofControl schema)) := by
  split
  case h_1 =>
    exact yields_ofFurtherItems.bind fun further hf => .list (List.forall_mem_append.mpr ⟨hc, hf⟩)
  case h_2 => exact .list (List.forall_mem_append.mpr ⟨hc, List.forall_mem_nil _⟩)

theorem yields_ofList : (ofList node (RuleBag.ofControl schema) generic site).Yields c P (Assembled P schema) := by
  unfold ofList
  refine yields_context_bind fun _ _ => yields_note_bind ?_
  dsimp only
  split
  case h_1 => exact yields_note_bind (yields_ofSlots.bind fun _ hc => yields_further hc)
  case h_2 => exact yields_further nofun

theorem yields_ofNode :
    (ofNode root fillDefaults site).Yields c P (OptionHolds (AssembledAt root P site.schemaPointer)) := by
  unfold ofNode
  split
  case h_1 => exact nofun
  case h_2 schema hs =>
    have hsome {t : Template} (ht : Assembled P schema t) :
        OptionHolds (AssembledAt root P site.schemaPointer) (some t) := fun _ he => Option.some.inj he ▸ ⟨schema, hs, ht⟩
    dsimp only
    split
    case h_1 =>
      split
      case h_1 => exact nofun
      case h_2 =>
        refine yields_context_bind fun _ _ => ?_
        split
        case h_1 => exact nofun
        case h_2 => exact yields_repeated_bind nofun
    case h_2 =>
      refine yields_context_bind fun _ _ => yields_note_bind ?_
      split
      case h_1 => exact yields_ofGroup.bind fun _ ht => hsome ht
      case h_2 => exact yields_ofList.bind fun _ ht => hsome ht
      case h_3 => exact yields_context_bind fun _ _ => hsome .leaf

end Pieces

end Program

-- A call that goes on as asked for, if it is given a control that is.
def Frame.Yields (c : Context) (P : Template → Prop) : Frame → Prop
  | node next => ∀ o, OptionHolds P o → (next o).Yields c P (OptionHolds P)
  | entry _ next => next.Yields c P (OptionHolds P)

namespace Moment

variable {m m' start : Moment} {site : Site} {levels : Nat} {o : Option Template} {calls : List Frame}

-- Whether everything built so far is as asked for, and what is still to be done keeps it so.
structure Yields (c : Context) (P : Template → Prop) (m : Moment) : Prop where
  stocked : Stocked c P m.context
  program : m.program.Yields c P (OptionHolds P)
  calls : ∀ frame ∈ m.calls, frame.Yields c P

section Steps

variable (hP : ∀ node t, Assembled P node t → P t)
include hP

theorem yields_begin : (Program.ofNode root fillDefaults site).Yields c P (OptionHolds P) :=
  Program.yields_ofNode.imp fun _ ho t ht =>
    have ⟨node, _, ha⟩ := ho t ht
    hP node t ha

theorem yields_start (hl : c.library = []) : Yields c P ⟨c, Program.ofNode root fillDefaults site, []⟩ := by
  have hp : (Program.ofNode root fillDefaults site).Yields c P (OptionHolds P) := yields_begin hP
  exact ⟨.of_library_nil hl, hp, nofun⟩

theorem Yields.next (hm : m.Yields c P) (h : m.next? root fillDefaults = some m') : m'.Yields c P := by
  obtain ⟨hk, hp, hc⟩ := hm
  cases Next.of_next? h
  case look => exact ⟨hk, hp _ hk, hc⟩
  case learn => exact ⟨hk.learn, hp, hc⟩
  case call => exact ⟨hk, yields_begin hP, List.forall_mem_cons.mpr ⟨hp, hc⟩⟩
  case found => exact ⟨hk, hp, hc⟩
  case enter => exact ⟨hk.setEntry nofun, yields_begin hP, List.forall_mem_cons.mpr ⟨hp, hc⟩⟩
  case result =>
    have ⟨hf, hc⟩ := List.forall_mem_cons.mp hc
    exact ⟨hk, hf _ hp, hc⟩
  case store =>
    have ⟨hf, hc⟩ := List.forall_mem_cons.mp hc
    refine ⟨hk.setEntry fun t he => ?_, hf, hc⟩
    cases he
    exact ⟨"", hp _ rfl⟩
  case drop =>
    have ⟨hf, hc⟩ := List.forall_mem_cons.mp hc
    exact ⟨hk.dropEntry, hf, hc⟩

theorem Yields.of_reaches (hm : m.Yields c P) (h : Reaches root fillDefaults m m') : m'.Yields c P := by
  induction h
  case refl => exact hm
  case tail hn hi => exact hi.next hP hn

end Steps

section Run

variable {build : Site → Builder (Option Template)} {p : Program (Option Template)} {R : Option Template → Prop}

-- A call that is begun after a moment gives a control as asked for, and leaves a library with such controls.
def Grants (root : Json) (fillDefaults : Bool) (start : Moment) (c : Context) (P : Template → Prop)
    (build : Site → Builder (Option Template)) : Prop :=
  ∀ {site c₁ o c₂ calls}, Reaches root fillDefaults start ⟨c₁, Program.ofNode root fillDefaults site, calls⟩ →
    Stocked c P c₁ → build site c₁ = .ok (o, c₂) → Stocked c P c₂ ∧ OptionHolds P o

theorem Grants.repeated {key schemaPointer templatePointer : String} (hg : Grants root fillDefaults start c P build)
    (hr : Reaches root fillDefaults start ⟨c₁, .enter key schemaPointer templatePointer p, calls⟩) (hk : Stocked c P c₁)
    (h : repeated build key schemaPointer templatePointer c₁ = .ok ((), c₂)) : Stocked c P c₂ := by
  rw [repeated_eq] at h
  split at h
  case isTrue =>
    cases h
    exact hk
  case isFalse hn =>
    have hr := hr.tail (if_neg hn)
    have hk : Stocked c P (c₁.setEntry key .building) := hk.setEntry nofun
    split at h
    case h_1 t c₃ hb =>
      cases h
      have ⟨hk, ht⟩ := hg hr hk hb
      refine hk.setEntry fun t' he => ?_
      cases he
      exact ⟨"", ht t rfl⟩
    case h_2 c₃ hb =>
      cases h
      exact (hg hr hk hb).1.dropEntry
    case h_3 => contradiction

-- What a program yields, it yields when it is run.
theorem Grants.run (hg : Grants root fillDefaults start c P build)
    (hb : ∀ site, Passes root fillDefaults (build site) (Program.ofNode root fillDefaults site))
    (hr : Reaches root fillDefaults start ⟨c₁, p, calls⟩) (hk : Stocked c P c₁) (hp : p.Yields c P R)
    (h : p.run build c₁ = .ok (o, c₂)) : Stocked c P c₂ ∧ R o := by
  induction p generalizing c₁
  case done =>
    cases h
    exact ⟨hk, hp⟩
  case look next hi => exact hi c₁ (hr.tail rfl) hk (hp c₁ hk) h
  case learn hi => exact hi (hr.tail rfl) hk.learn hp h
  case call site next hi =>
    obtain ⟨o₁, c₃, ho, h⟩ := bind_eq_ok.mp h
    have ⟨hk', hp'⟩ := hg (hr.tail rfl) hk ho
    exact hi o₁ (((hr.tail rfl).trans ((hb site).ok ho)).tail rfl) hk' (hp o₁ hp') h
  case enter hi =>
    obtain ⟨_, c₃, ho, h⟩ := bind_eq_ok.mp h
    exact hi (hr.trans (reaches_of_repeated hb ho)) (hg.repeated hr hk ho) hp h

-- What follows for a control of a call from those that it is put together from is true of all.
theorem assembled_within
    (hP : ∀ {site c₁ levels t c₂ calls}, Reaches root fillDefaults start ⟨c₁, Program.ofNode root fillDefaults site, calls⟩ →
      within root fillDefaults levels site c₁ = .ok (some t, c₂) → AssembledAt root P site.schemaPointer t → P t)
    (hr : Reaches root fillDefaults start ⟨c₁, Program.ofNode root fillDefaults site, calls⟩) (hk : Stocked c P c₁)
    (h : within root fillDefaults levels site c₁ = .ok (o, c₂)) :
    Stocked c P c₂ ∧ OptionHolds (AssembledAt root P site.schemaPointer) o := by
  induction levels generalizing site c₁ o c₂ calls
  case zero => contradiction
  case succ levels hi =>
    have hg : Grants root fillDefaults start c P (within root fillDefaults levels) := by
      intro site c₁ o c₂ calls hr hk h
      have ⟨hk', ho⟩ := hi hr hk h
      refine ⟨hk', fun t ht => hP hr (ht ▸ h) (ho t ht)⟩
    rw [← Program.run_within] at h
    exact hg.run (fun _ => passes_within) hr hk Program.yields_ofNode h

end Run

end Moment

end Builder

end FormModel
