import FormModel.Proofs.Build.Outcome

/-!
The calls made while the control of a place is built.  A place enters those directly below it, and it
opens places in the library that are not there yet.  If the levels run out, they have run out in one of
these calls; so whatever a call makes smaller bounds the levels.
-/

namespace FormModel

variable {root : Json} {c c' c'' : Context} {site child : Site} {key : String}

theorem Context.libraryCopy?_eq_some {t : Template} :
    c.libraryCopy? key = some t ↔ Dict.get? c.library key = some (.ready t) := by
  unfold libraryCopy?
  split
  case h_1 hg => simp [hg]
  case h_2 hn => exact ⟨nofun, fun hg => absurd hg (hn t)⟩

-- Building leaves the maps alone and takes no entry out of the library that was there before.
structure Context.GrowsTo (c c' : Context) : Prop where
  schemaRefs : c'.schemaRefs = c.schemaRefs
  dataRefs : c'.dataRefs = c.dataRefs
  arrays : c'.arrays = c.arrays
  library : ∀ key, Dict.has c.library key → Dict.has c'.library key

namespace Context.GrowsTo

theorem refl : c.GrowsTo c := ⟨rfl, rfl, rfl, fun _ h => h⟩

theorem trans (h : c.GrowsTo c') (h' : c'.GrowsTo c'') : c.GrowsTo c'' :=
  ⟨h'.schemaRefs.trans h.schemaRefs, h'.dataRefs.trans h.dataRefs, h'.arrays.trans h.arrays,
    fun key hk => h'.library key (h.library key hk)⟩

theorem learn {generic : String} {f : NodeOptions → NodeOptions} : c.GrowsTo (c.learn generic f) :=
  ⟨rfl, rfl, rfl, fun _ h => h⟩

theorem has_setEntry {entry : LibraryEntry} : Dict.has (c.setEntry key entry).library key = true := by
  simp [setEntry, Dict.has, Dict.get?_insert]

theorem setEntry {entry : LibraryEntry} : c.GrowsTo (c.setEntry key entry) := by
  refine ⟨rfl, rfl, rfl, fun key' h => ?_⟩
  simp only [Context.setEntry, Dict.has, Dict.get?_insert]
  split
  case isTrue => rfl
  case isFalse => exact h

-- Dropping an entry that has been made on the way leads back to where it was not there.
theorem dropEntry (h : c.GrowsTo c') (hk : Dict.has c.library key = false) : c.GrowsTo (c'.dropEntry key) := by
  refine ⟨h.schemaRefs, h.dataRefs, h.arrays, fun key' h' => ?_⟩
  simp only [Context.dropEntry, Dict.has, Dict.get?_erase]
  split
  case isTrue he => exact absurd h' (by simp [← he, hk])
  case isFalse => exact h.library key' h'

theorem generic (h : c.GrowsTo c') (pointer : String) : c'.generic pointer = c.generic pointer := by
  rw [Context.generic, Context.generic, h.dataRefs, h.arrays]

theorem not_has (h : c.GrowsTo c') (hk : Dict.has c'.library key = false) : Dict.has c.library key = false :=
  Bool.eq_false_iff.mpr fun hc => by simp [h.library key hc] at hk

end Context.GrowsTo

namespace Builder

-- Where the schema of the further items of a list stands: an enclosing one if the items repeat it.
def itemsPlace (c : Context) (schemaPointer : String) : String :=
  (Pointer.fold? c.schemaRefs [] schemaPointer).getD schemaPointer

-- The places that are built as part of another one.
inductive Enters (root : Json) (c : Context) (site : Site) : Site → Prop
  | property {schema name child} :
    root.at? site.schemaPointer = some schema → propertySite? (schemaNode schema) site name = some child →
    Enters root c site child
  | referred {schema name child schema' target} :
    root.at? site.schemaPointer = some schema → propertySite? (schemaNode schema) site name = some child →
    root.at? child.schemaPointer = some schema' → referredPlace? schema' = some target →
    child.data.isNull = false → Enters root c site { child with schemaPointer := target }
  | slot {schema tuple i} :
    root.at? site.schemaPointer = some schema → Dict.get? (schemaNode schema) "items" = some (.arr tuple) →
    i < tuple.length →
    Enters root c site
      (itemSite site (site.schemaPointer ++ "/items/" ++ toString i) (site.data.items?.getD []) i)
  | item {schema maxItems place i} :
    root.at? site.schemaPointer = some schema → itemsSchema? (schemaNode schema) site maxItems = some place →
    i < (site.data.items?.getD []).length →
    Enters root c site (itemSite site (itemsPlace c place) (site.data.items?.getD []) i)

-- The places that are built into the library for another one, under their data pointers.
inductive Opens (root : Json) (c : Context) (site : Site) : Site → Prop
  | reference {schema target key} :
    root.at? site.schemaPointer = some schema → ControlKind.ofSchema schema = .reference →
    referredPlace? schema = some target → referenceKey? root c target = some key →
    Opens root c site ⟨target, .null, key, ""⟩
  | slot {schema tuple i} :
    root.at? site.schemaPointer = some schema → Dict.get? (schemaNode schema) "items" = some (.arr tuple) →
    i < tuple.length →
    Opens root c site
      ⟨site.schemaPointer ++ "/items/" ++ toString i, .null,
        c.generic (c.generic site.dataPointer ++ "/" ++ toString i),
        site.templatePointer ++ "/controls/" ++ toString i⟩
  | items {schema maxItems place} :
    root.at? site.schemaPointer = some schema → ControlKind.ofSchema schema = .list →
    itemsSchema? (schemaNode schema) site maxItems = some place →
    Opens root c site
      ⟨itemsPlace c place, .null, c.generic (c.generic site.dataPointer ++ "/-"),
        site.templatePointer ++ "/controls/-"⟩

-- The calls for a place, with what is known before and at the call.
inductive Calls (root : Json) (site : Site) (c : Context) : Site → Context → Prop
  | enter {child : Site} {c' : Context} : Enters root c site child → c.GrowsTo c' → Calls root site c child c'
  | opened {child : Site} {c' : Context} :
    Opens root c site child → Dict.has c.library child.dataPointer = false → c.GrowsTo c' →
    Dict.has c'.library child.dataPointer → Calls root site c child c'

section Trace

variable {α β : Type} {build build' : Site → Builder (Option Template)} {m m' : Builder α}
  {f f' : α → Builder β}

theorem repeated_eq {place templatePointer : String} : repeated build key place templatePointer c =
    if Dict.has c.library key then .ok ((), c)
    else match build ⟨place, .null, key, templatePointer⟩ (c.setEntry key .building) with
      | .ok (some t, c') => .ok ((), c'.setEntry key (.ready t))
      | .ok (none, c') => .ok ((), c'.dropEntry key)
      | .error e => .error e := by
  cases hk : Dict.has c.library key
  case true =>
    show (if Dict.has c.library key then _ else _ : Builder Unit) c = _
    simp [hk]
    rfl
  case false =>
    show (if Dict.has c.library key then _ else _ : Builder Unit) c = _
    simp [hk]
    show Except.bind (build ⟨place, .null, key, templatePointer⟩ (c.setEntry key .building)) _ = _
    rcases build ⟨place, .null, key, templatePointer⟩ (c.setEntry key .building) with e | ⟨_ | t, c'⟩ <;> rfl

-- A piece of building and the same piece with more levels, run after a place has been come to.  If the
-- levels run out, then in a call; if they do not, the context has grown, and more levels make no difference.
structure Traced (root : Json) (build : Site → Builder (Option Template)) (site : Site) (c : Context)
    (m m' : Builder α) : Prop where
  ok : ∀ {c₁ r}, c.GrowsTo c₁ → m c₁ = .ok r → c₁.GrowsTo r.2 ∧ m' c₁ = .ok r
  error : ∀ {c₁ e}, c.GrowsTo c₁ → m c₁ = .error e →
    ∃ child c₂, Calls root site c child c₂ ∧ build child c₂ = .error e

namespace Traced

theorem pure {a : α} : Traced root build site c (pure a) (pure a) where
  ok _ h := ⟨Except.ok.inj h ▸ .refl, h⟩
  error _ h := nomatch h

theorem bind (h : Traced root build site c m m') (hf : ∀ a, Traced root build site c (f a) (f' a)) :
    Traced root build site c (m >>= f) (m' >>= f') where
  ok hc hr := by
    have ⟨a, c₂, hm, hr⟩ := bind_eq_ok.mp hr
    have ⟨hg, hm'⟩ := h.ok hc hm
    have ⟨hg', hr'⟩ := (hf a).ok (hc.trans hg) hr
    exact ⟨hg.trans hg', bind_eq_ok.mpr ⟨a, c₂, hm', hr'⟩⟩
  error hc he := by
    rcases bind_eq_error.mp he with he | ⟨a, c₂, hm, he⟩
    · exact h.error hc he
    · exact (hf a).error (hc.trans (h.ok hc hm).1) he

theorem get_bind {f f' : Context → Builder β}
    (hf : ∀ c₁, c.GrowsTo c₁ → Traced root build site c (f c₁) (f' c₁)) :
    Traced root build site c (get >>= f) (get >>= f') where
  ok hc hr := (hf _ hc).ok hc hr
  error hc he := (hf _ hc).error hc he

theorem modify {g : Context → Context} (hg : ∀ c₁ : Context, c₁.GrowsTo (g c₁)) :
    Traced root build site c (modify g) (modify g) where
  ok _ h := ⟨Except.ok.inj h ▸ hg _, h⟩
  error _ h := nomatch h

variable (hb : ∀ {child c₁ r}, build child c₁ = .ok r → c₁.GrowsTo r.2 ∧ build' child c₁ = .ok r)
include hb

theorem enters (h : Enters root c site child) : Traced root build site c (build child) (build' child) where
  ok _ hr := hb hr
  error hc he := ⟨child, _, .enter h hc, he⟩

theorem opens {place templatePointer : String} (h : Opens root c site ⟨place, .null, key, templatePointer⟩) :
    Traced root build site c (repeated build key place templatePointer)
      (repeated build' key place templatePointer) where
  ok {c₁ r} hc hr := by
    rw [repeated_eq] at hr ⊢
    split at hr
    case isTrue hk => exact ⟨Except.ok.inj hr ▸ .refl, by rw [if_pos hk, hr]⟩
    case isFalse hk =>
      rw [Bool.not_eq_true] at hk
      split at hr
      case h_1 t c₂ hm =>
        have ⟨hg, hm'⟩ := hb hm
        exact ⟨Except.ok.inj hr ▸ (Context.GrowsTo.setEntry.trans hg).trans .setEntry, by simp [hk, hm', hr]⟩
      case h_2 c₂ hm =>
        have ⟨hg, hm'⟩ := hb hm
        exact ⟨Except.ok.inj hr ▸ (Context.GrowsTo.setEntry.trans hg).dropEntry hk, by simp [hk, hm', hr]⟩
      case h_3 => contradiction
  error {c₁ e} hc he := by
    rw [repeated_eq] at he
    split at he
    case isTrue => contradiction
    case isFalse hk =>
      rw [Bool.not_eq_true] at hk
      split at he
      case h_3 e' hm =>
        have hg : c.GrowsTo (c₁.setEntry key .building) := hc.trans .setEntry
        exact ⟨_, _, .opened h (hc.not_has hk) hg Context.GrowsTo.has_setEntry, Except.error.inj he ▸ hm⟩
      all_goals contradiction

variable {schema : Json} {items : List Json} {place generic name : String} {maxItems minItems : Nat}
  {tuple : List Json} {i : Nat}

theorem ofReference (hs : root.at? site.schemaPointer = some schema)
    (hp : propertySite? (schemaNode schema) site name = some child) :
    Traced root build site c (ofReference root build child) (Builder.ofReference root build' child) := by
  unfold Builder.ofReference
  split
  case h_1 => exact pure
  case h_2 schema' hs' =>
    split
    case isTrue => exact pure
    case isFalse =>
      split
      case h_1 => exact pure
      case h_2 target ht =>
        split
        case isTrue => exact get_bind fun _ _ => pure
        case isFalse hd => exact enters hb (.referred hs hp hs' ht (by simpa using hd))

theorem ofProperties {names : List String} {controls : Dict (Option Template)}
    (hs : root.at? site.schemaPointer = some schema) :
    Traced root build site c (ofProperties root build (schemaNode schema) site names controls)
      (Builder.ofProperties root build' (schemaNode schema) site names controls) := by
  induction names generalizing controls
  case nil => exact pure
  case cons name names hi =>
    unfold Builder.ofProperties
    split
    case h_1 => exact hi
    case h_2 child hp =>
      refine (enters hb (.property hs hp)).bind fun control => ?_
      split
      case isTrue => exact pure.bind fun _ => hi
      case isFalse => exact (ofReference hb hs hp).bind fun _ => hi

theorem ofGroup {rules : RuleBag} (hs : root.at? site.schemaPointer = some schema) :
    Traced root build site c (ofGroup root build schema rules generic site)
      (Builder.ofGroup root build' schema rules generic site) := by
  unfold Builder.ofGroup
  refine (ofProperties hb hs).bind fun controls => ?_
  split
  case h_1 => exact (modify fun _ => .learn).bind fun _ => pure
  case h_2 => exact pure

theorem ofItem {item : Site} {recursive : Bool} (h : i < items.length → Enters root c site item) :
    Traced root build site c (ofItem build items recursive key item i)
      (Builder.ofItem build' items recursive key item i) := by
  unfold Builder.ofItem
  split
  case isTrue hi => exact enters hb (h hi)
  case isFalse =>
    split
    case isTrue => exact pure
    case isFalse => exact get_bind fun _ _ => pure

theorem ofSlots {count : Nat} (hs : root.at? site.schemaPointer = some schema)
    (ht : Dict.get? (schemaNode schema) "items" = some (.arr tuple)) (hi : i + count ≤ tuple.length) :
    Traced root build site c
      (ofSlots build (c.generic site.dataPointer) site (site.data.items?.getD []) minItems i count)
      (Builder.ofSlots build' (c.generic site.dataPointer) site (site.data.items?.getD []) minItems i count) := by
  induction count generalizing i
  case zero => exact pure
  case succ count hn =>
    have hslot : Enters root c site _ := .slot hs ht (show i < tuple.length by omega)
    refine bind ?_ fun control => (hn (by omega)).bind fun _ => pure
    unfold Builder.ofSlot
    split
    case isTrue => exact enters hb hslot
    case isFalse =>
      refine get_bind fun c₁ hc => ?_
      rw [hc.generic]
      exact (opens hb (.slot hs ht (by omega))).bind fun _ => ofItem hb fun _ => hslot

theorem ofItems {recursive : Bool} {count : Nat} (hs : root.at? site.schemaPointer = some schema)
    (hp : itemsSchema? (schemaNode schema) site maxItems = some place) :
    Traced root build site c
      (ofItems build site (itemsPlace c place) (site.data.items?.getD []) recursive key i count)
      (Builder.ofItems build' site (itemsPlace c place) (site.data.items?.getD []) recursive key i count) := by
  induction count generalizing i
  case zero => exact pure
  case succ count hn => exact (ofItem hb fun hi => .item hs hp hi).bind fun _ => hn.bind fun _ => pure

theorem ofFurtherItems {slots : Nat} (hs : root.at? site.schemaPointer = some schema)
    (hl : ControlKind.ofSchema schema = .list)
    (hp : itemsSchema? (schemaNode schema) site maxItems = some place) :
    Traced root build site c
      (ofFurtherItems build (c.generic site.dataPointer) site (site.data.items?.getD []) place slots minItems maxItems)
      (Builder.ofFurtherItems build' (c.generic site.dataPointer) site (site.data.items?.getD []) place slots
        minItems maxItems) := by
  unfold Builder.ofFurtherItems
  refine get_bind fun c₁ hc => ?_
  simp only [hc.generic, hc.schemaRefs]
  exact (opens hb (.items hs hl hp)).bind fun _ => (modify fun _ => .learn).bind fun _ => ofItems hb hs hp

theorem ofList {rules : RuleBag} (hs : root.at? site.schemaPointer = some schema)
    (hl : ControlKind.ofSchema schema = .list) :
    Traced root build site c (ofList build (schemaNode schema) rules (c.generic site.dataPointer) site)
      (Builder.ofList build' (schemaNode schema) rules (c.generic site.dataPointer) site) := by
  unfold Builder.ofList
  refine get_bind fun c₁ _ => (modify fun _ => .learn).bind fun _ => ?_
  dsimp only
  split
  case h_1 tuple ht =>
    refine (modify fun _ => .learn).bind fun _ => (ofSlots hb hs ht (by omega)).bind fun slots => ?_
    split
    case h_1 place hp => exact (ofFurtherItems hb hs hl hp).bind fun _ => pure
    case h_2 => exact pure.bind fun _ => pure
  case h_2 =>
    refine pure.bind fun slots => ?_
    split
    case h_1 place hp => exact (ofFurtherItems hb hs hl hp).bind fun _ => pure
    case h_2 => exact pure.bind fun _ => pure

theorem ofNode : Traced root build site c (ofNode root false build site) (Builder.ofNode root false build' site) := by
  unfold Builder.ofNode
  split
  case h_1 => exact pure
  case h_2 schema hs =>
    simp only [Bool.and_false, Bool.false_eq_true, if_false]
    split
    case h_1 hk =>
      split
      case h_1 => exact pure
      case h_2 target ht =>
        refine get_bind fun c₁ hc => ?_
        split
        case h_1 => exact pure
        case h_2 key hr =>
          have hr : referenceKey? root c target = some key := by
            rw [← hr, referenceKey?, referenceKey?]
            exact congrArg (Option.map · _) (funext fun p => (hc.generic p).symm)
          exact (opens hb (.reference hs hk ht hr)).bind fun _ => pure
    case h_2 kind hk =>
      refine get_bind fun c₁ hc => (modify fun _ => .learn).bind fun _ => ?_
      rw [hc.generic]
      split
      case h_1 => exact (ofGroup hb hs).bind fun _ => pure
      case h_2 hl => exact (ofList hb hs hl).bind fun _ => pure
      case h_3 => exact get_bind fun _ _ => pure

end Traced

end Trace

section Within

variable {levels more : Nat} {e : Context} {r : Option Template × Context}

theorem within_succ (h : within root false levels site c = .ok r) :
    c.GrowsTo r.2 ∧ within root false (levels + 1) site c = .ok r := by
  induction levels generalizing site c r
  case zero => contradiction
  case succ levels hi => exact (Traced.ofNode hi).ok .refl h

-- Once the levels are enough, more of them make no difference.
theorem within_mono (h : within root false levels site c = .ok r) (hl : levels ≤ more) :
    within root false more site c = .ok r := by
  induction hl
  case refl => exact h
  case step hi => exact (within_succ hi).2

theorem exists_call_of_error (h : within root false (levels + 1) site c = .error e) :
    ∃ child c', Calls root site c child c' ∧ within root false levels child c' = .error e :=
  (Traced.ofNode within_succ).error .refl h

theorem Calls.growsTo (h : Calls root site c child c') : c.GrowsTo c' := by
  cases h <;> assumption

theorem growsTo_of_error (h : within root false levels site c = .error e) : c.GrowsTo e := by
  induction levels generalizing site c
  case zero => exact Except.error.inj h ▸ .refl
  case succ levels hi =>
    have ⟨_, _, hc, h⟩ := exists_call_of_error h
    exact hc.growsTo.trans (hi h)

-- Whatever every call makes smaller bounds the levels that can run out.
theorem levels_le_of_error (inv : Site → Context → Prop) {measure : Site → Context → Nat}
    (hstep : ∀ {site c child c'}, inv site c → Calls root site c child c' → c'.GrowsTo e →
      inv child c' ∧ measure child c' < measure site c)
    (hi : inv site c) (h : within root false levels site c = .error e) : levels ≤ measure site c := by
  induction levels generalizing site c
  case zero => exact Nat.zero_le _
  case succ levels hn =>
    have ⟨_, _, hc, h⟩ := exists_call_of_error h
    have ⟨hi, hlt⟩ := hstep hi hc (growsTo_of_error h)
    exact Nat.lt_of_le_of_lt (hn hi h) hlt

end Within

end Builder

end FormModel
