import FormModel.Proofs.Build.Program

/-!
What building adds to a context.  Whatever is built, the maps stay, and every entry that was in the library before is in
it as it was: entries are only made where there are none, and each is written by the call that has made it.  So the
items of a list that are built find each other's entries, and an entry made for all of them is there for the last one.
-/

namespace FormModel

namespace Context

variable {c c' c'' : Context} {key : String} {entry : LibraryEntry}

-- A context that has grown without a change to the entries of the library that were there.
structure ExtendsTo (c c' : Context) : Prop extends c.GrowsTo c' where
  entries : ∀ key entry, Dict.get? c.library key = some entry → Dict.get? c'.library key = some entry

namespace ExtendsTo

theorem of_library (hg : c.GrowsTo c') (hl : c'.library = c.library) : c.ExtendsTo c' := ⟨hg, fun _ _ he => hl ▸ he⟩

theorem refl : c.ExtendsTo c := .of_library .refl rfl

theorem trans (h : c.ExtendsTo c') (h' : c'.ExtendsTo c'') : c.ExtendsTo c'' :=
  ⟨h.toGrowsTo.trans h'.toGrowsTo, fun key entry he => h'.entries key entry (h.entries key entry he)⟩

theorem learn {generic : String} {f : NodeOptions → NodeOptions} : c.ExtendsTo (c.learn generic f) := .of_library .learn rfl

theorem get?_ne (hk : Dict.has c.library key = false) {key' : String} (he : Dict.get? c.library key' = some entry) :
    key ≠ key' := by
  rintro rfl
  simp [Dict.has, he] at hk

-- Setting an entry that was not there at first changes none that was.
theorem setEntry (h : c.ExtendsTo c') (hk : Dict.has c.library key = false) : c.ExtendsTo (c'.setEntry key entry) := by
  refine ⟨h.toGrowsTo.trans .setEntry, fun key' entry' he => ?_⟩
  simp only [Context.setEntry, Dict.get?_insert, if_neg (get?_ne hk he)]
  exact h.entries key' entry' he

theorem dropEntry (h : c.ExtendsTo c') (hk : Dict.has c.library key = false) : c.ExtendsTo (c'.dropEntry key) := by
  refine ⟨h.toGrowsTo.dropEntry hk, fun key' entry' he => ?_⟩
  simp only [Context.dropEntry, Dict.get?_erase, if_neg (get?_ne hk he)]
  exact h.entries key' entry' he

theorem libraryCopy? {t : Template} (h : c.ExtendsTo c') (ht : c.libraryCopy? key = some t) : c'.libraryCopy? key = some t :=
  libraryCopy?_eq_some.mpr (h.entries key _ (libraryCopy?_eq_some.mp ht))

end ExtendsTo

end Context

namespace Builder

variable {α : Type} {build : Site → Builder (Option Template)} {c c' : Context} {root : Json} {fillDefaults : Bool} {levels : Nat}
  {site : Site} {key place templatePointer : String} {r : Option Template × Context}

-- Whether building a place only adds to what is known.
def Extends (build : Site → Builder (Option Template)) : Prop := ∀ site c r, build site c = .ok r → c.ExtendsTo r.2

theorem extendsTo_repeated (hb : Extends build) (h : repeated build key place templatePointer c = .ok ((), c')) : c.ExtendsTo c' := by
  rw [repeated_eq] at h
  split at h
  case isTrue => cases h; exact .refl
  case isFalse hk =>
    rw [Bool.not_eq_true] at hk
    have hbuilding {r} (hm : build ⟨place, .null, key, templatePointer⟩ (c.setEntry key .building) = .ok r) : c.ExtendsTo r.2 :=
      (Context.ExtendsTo.refl.setEntry hk).trans (hb _ _ _ hm)
    split at h
    case h_1 hm => cases h; exact (hbuilding hm).setEntry hk
    case h_2 hm => cases h; exact (hbuilding hm).dropEntry hk
    case h_3 => contradiction

theorem extendsTo_run (hb : Extends build) {p : Program α} {a : α} (h : p.run build c = .ok (a, c')) : c.ExtendsTo c' := by
  induction p generalizing c
  case done =>
    cases h
    exact .refl
  case look next hi => exact hi _ h
  case learn generic f next hi => exact Context.ExtendsTo.learn.trans (hi h)
  case call site next hi =>
    obtain ⟨o, c₁, ho, h⟩ := bind_eq_ok.mp h
    exact (hb _ _ _ ho).trans (hi o h)
  case enter key place templatePointer next hi =>
    obtain ⟨_, c₁, ho, h⟩ := bind_eq_ok.mp h
    exact (extendsTo_repeated hb ho).trans (hi h)

theorem extends_within : Extends (within root fillDefaults levels) := by
  induction levels
  case zero => exact fun _ _ _ h => nomatch h
  case succ levels hi =>
    intro site c r h
    rw [← Program.run_within] at h
    exact extendsTo_run hi h

section Items

variable {items : List Json} {recursive : Bool} {i k count : Nat} {controls : List (Option Template)} {o : Option Template}

-- Where a control in a list comes from, if what is known has been `c` or more: it is built from its item, and where there is
-- none, copied.
structure ItemOf (build : Site → Builder (Option Template)) (c : Context) (site : Site) (place : String) (items : List Json)
    (recursive : Bool) (key : String) (i : Nat) (o : Option Template) : Prop where
  built : i < items.length → ∃ c₁ c₂, c.ExtendsTo c₁ ∧ build (itemSite site place items i) c₁ = .ok (o, c₂)
  copied : items.length ≤ i → ∃ c₁, c.ExtendsTo c₁ ∧ o = if recursive then none else c₁.libraryCopy? key

theorem ItemOf.of_extendsTo (h : c.ExtendsTo c') (ho : ItemOf build c' site place items recursive key i o) :
    ItemOf build c site place items recursive key i o where
  built hi :=
    have ⟨c₁, c₂, hc, hb⟩ := ho.built hi
    ⟨c₁, c₂, h.trans hc, hb⟩
  copied hi :=
    have ⟨c₁, hc, ho⟩ := ho.copied hi
    ⟨c₁, h.trans hc, ho⟩

theorem itemOf_ofItem (hb : Extends build)
    (h : ofItem build items recursive key (itemSite site place items i) i c = .ok (o, c')) :
    c.ExtendsTo c' ∧ ItemOf build c site place items recursive key i o := by
  unfold ofItem at h
  split at h
  case isTrue hi => exact ⟨hb _ _ _ h, fun _ => ⟨c, c', .refl, h⟩, fun hle => absurd hi (Nat.not_lt.mpr hle)⟩
  case isFalse hi =>
    split at h
    case isTrue hr =>
      cases h
      exact ⟨.refl, fun hlt => absurd hlt hi, fun _ => ⟨c, .refl, by rw [if_pos hr]⟩⟩
    case isFalse hr =>
      cases h
      exact ⟨.refl, fun hlt => absurd hlt hi, fun _ => ⟨c, .refl, by rw [if_neg hr]⟩⟩

-- There are as many controls as asked for, each where its item is.
theorem itemOf_ofItems (hb : Extends build) (h : ofItems build site place items recursive key i count c = .ok (controls, c')) :
    controls.length = count ∧
      ∀ k o, controls[k]? = some o → ItemOf build c site place items recursive key (i + k) o := by
  induction count generalizing i c controls
  case zero =>
    cases h
    exact ⟨rfl, nofun⟩
  case succ count hn =>
    obtain ⟨o, c₁, ho, h⟩ := bind_eq_ok.mp h
    obtain ⟨rest, c₂, hrest, h⟩ := bind_eq_ok.mp h
    cases h
    have ⟨hc, hitem⟩ := itemOf_ofItem hb ho
    have ⟨hl, hrest⟩ := hn hrest
    refine ⟨by rw [List.length_cons, hl], fun k o' hk => ?_⟩
    cases k
    case zero => exact Option.some.inj hk ▸ hitem
    case succ k =>
      rw [show i + (k + 1) = i + 1 + k by omega]
      exact .of_extendsTo hc (hrest k o' hk)

end Items

end Builder

end FormModel
