import FormModel.Proofs.FormData.Writes
import FormModel.Proofs.Pointer.Kinds
import FormModel.Proofs.Reference.Repetitions

/-!
Writes and the kinds of arrays and objects.  A write that comes first to the place of an array or object makes one of the
kind that its next token asks for.  If each write makes what it touches first as it is in the data, all arrays and objects
that have been touched are what they are there; and one that has become something else stays so, since no later write ends
at it or above.
-/

namespace FormModel

namespace FormData

/-- Whether arrays and objects of the data are arrays and objects in the result, where they are in it. -/
structure SameKinds (data result : Json) : Prop where
  root : result.kind = data.kind
  inside : ∀ {p u v}, data.follow? p = some v → result.follow? p = some u → v.isContainer → u.isContainer → u.kind = v.kind

/-- The first of some writes at a place or below it. -/
def firstThrough (ws : List (Path × Json)) (p : Path) : Option (Path × Json) := ws.find? fun w => p.isPrefixOf w.1

/-- Whether a write makes an array or object at a place, where it comes through first, of the kind of a value: it writes one
there, or goes on under a token that cannot be taken for one of another kind. -/
def Opens (w : Path × Json) (p : Path) (v : Json) : Prop :=
  w.1 = p ∧ w.2.kind = v.kind ∨ ∃ slot s, w.1 = p ++ slot :: s ∧ slot.Plain

-- A write that the data give rise to: at one of their scalars, or of an empty container for a member of one of their
-- objects, or of a scalar that should be one, where there is nothing yet.
inductive Due (data result : Json) : Path × Json → Prop
  | scalar {p v x} (hp : data.follow? p = some v) (hv : v.isContainer = false) : Due data result (p, x)
  | required {p v name b} (hp : data.follow? p = some v) (hv : v.isContainer → v.isObj)
    (hn : result.has (.text (Pointer.ofPath (p ++ [.member name]))) = false) :
    Due data result (p ++ [.member name], Json.emptyContainer b)

-- Whether each of some writes is due when it is made.
def AllDue (data : Json) : List (Path × Json) → Json → Prop
  | [], _ => True
  | w :: ws, result => Due data result w ∧ AllDue data ws (apply result w)

-- What is found at the place of an array or object of the data: if it has been touched one of the same kind, else nothing.
def Right (touched : Prop) (found : Option Json) (v : Json) : Prop :=
  (touched → ∃ u, found = some u ∧ u.kind = v.kind) ∧ (¬touched → (found.getD .null).isNull)

-- A result in which the arrays and objects of the data that have been touched are what they are in the data.
def Faithful (data result : Json) (touched : Path → Prop) : Prop :=
  ∀ p v, data.follow? p = some v → v.isContainer → Right (touched p) (result.follow? p) v

-- A result in which an array or object of the data has become something else.
def Wrong (data result : Json) : Prop :=
  ∃ p u v, data.follow? p = some v ∧ result.follow? p = some u ∧ v.isContainer ∧ u.isContainer ∧ u.kind ≠ v.kind

-- Whether a write makes what it touches first as it should be.
def Good (data : Json) (touched : Path → Prop) (w : Path × Json) : Prop :=
  ∀ p v, data.follow? p = some v → v.isContainer → p <+: w.1 → ¬touched p → Opens w p v

-- Whether each of some writes makes what it touches first as it should be.
def AllGood (data : Json) : List (Path × Json) → (Path → Prop) → Prop
  | [], _ => True
  | w :: ws, touched => Good data touched w ∧ AllGood data ws fun p => touched p ∨ p <+: w.1

variable {data result u v : Json} {p q : Path} {w : Path × Json} {ws : List (Path × Json)} {touched : Path → Prop}
  {f : Json → Json}

theorem Wrong.not_sameKinds (h : Wrong data result) : ¬SameKinds data result := fun hs =>
  have ⟨_, _, _, hv, hu, hvc, huc, hk⟩ := h
  hk (hs.inside hv hu hvc huc)

theorem Faithful.sameKinds (h : Faithful data result touched) (hc : data.isContainer) (hroot : touched []) :
    SameKinds data result where
  root := by
    have ⟨u, hu, hk⟩ := (h [] data rfl hc).1 hroot
    exact Option.some.inj hu ▸ hk
  inside {p u v} hv hu hvc huc := by
    have hr := h p v hv hvc
    by_cases ht : touched p
    case pos =>
      have ⟨u', hu', hk⟩ := hr.1 ht
      exact Option.some.inj (hu.symm.trans hu') ▸ hk
    case neg =>
      have hn := hr.2 ht
      rw [hu] at hn
      cases u <;> contradiction

-- All tokens on a path lead to its places, if those that come to where nothing is yet cannot be taken for something else.
theorem Faithful.takes (hf : Faithful data result touched) (hb : ∀ slot ∈ p, slot.Bounded)
    (hway : ∀ q slot s, p = q ++ slot :: s → ∃ v, data.follow? q = some v ∧ slot.fits v)
    (hopen : ∀ q slot s v, p = q ++ slot :: s → data.follow? q = some v → v.isContainer → ¬touched q → slot.Plain) :
    result.Takes p := by
  refine .of_forall fun q slot s he => ?_
  have ⟨v, hv, hfits⟩ := hway q slot s he
  have hc := Json.isContainer_of_fits hfits
  by_cases ht : touched q
  case pos =>
    have ⟨u, hu, hk⟩ := (hf q v hv hc).1 ht
    exact .inr ⟨by rw [hu, Option.getD_some, Json.fits_of_kind_eq hk, hfits], hb slot (by simp [he])⟩
  case neg => exact .inl ⟨(hf q v hv hc).2 ht, hopen q slot s v he hv hc ht⟩

-- What is changed at the end of a path, for the sake of something at its end or below, leaves a result faithful if it is so
-- there and below.
theorem Faithful.amend {r : Path} (hf : Faithful data result touched) (ha : result.Admits p) (hr : p <+: r)
    (hway : ∀ q slot s, p = q ++ slot :: s → ∃ v, data.follow? q = some v ∧ slot.fits v)
    (hbelow : ∀ s v, data.follow? (p ++ s) = some v → v.isContainer →
      Right (touched (p ++ s) ∨ p ++ s <+: r) ((f ((result.follow? p).getD .null)).follow? s) v) :
    Faithful data (result.amend p f) fun q => touched q ∨ q <+: r := by
  intro q v hv hc
  by_cases hp : p <+: q
  case pos =>
    obtain ⟨s, rfl⟩ := hp
    rw [Json.follow?_amend_append ha]
    exact hbelow s v hv hc
  case neg =>
    by_cases hq : q <+: p
    case pos =>
      obtain ⟨_ | ⟨slot, s⟩, rfl⟩ := hq
      case nil => simp at hp
      case cons =>
        have ⟨u, hu, hfits⟩ := Json.fits_follow?_amend (f := f) ha
        have ⟨v', hv', hfits'⟩ := hway q slot s rfl
        obtain rfl := Option.some.inj (hv.symm.trans hv')
        have hqr : q <+: r := (List.prefix_append q _).trans hr
        exact ⟨fun _ => ⟨u, hu, Json.kind_eq_of_fits hfits hfits'⟩, fun hn => absurd (.inr hqr) hn⟩
    case neg =>
      have hright := hf q v hv hc
      have ht : touched q ∨ q <+: r ↔ touched q :=
        or_iff_left fun hqr => (List.prefix_or_prefix_of_prefix hqr hr).elim hq hp
      dsimp only
      rw [ht]
      rcases Json.follow?_amend_of_not_prefix (f := f) ha hp hq with he | ⟨hn, he⟩
      · exact he ▸ hright
      · refine ⟨fun h => ?_, fun _ => by rw [he]; rfl⟩
        have ⟨_, hu, _⟩ := hright.1 h
        rw [hn] at hu
        contradiction

theorem apply_eq (h : w.1.map Slot.token ≠ [""]) :
    apply result w = (result.setTokens (w.1.map Slot.token) w.2 false).2 := put_compile h

theorem eq_of_tokens_eq (h : p.map Slot.token = [""]) : p = [.member ""] :=
  Pointer.eq_of_ofPath_eq_slash (by rw [Pointer.ofPath, h]; rfl)

theorem follow?_eq_none_of_has (hb : ∀ slot ∈ p, slot.Bounded) (h : result.has (.text (Pointer.ofPath p)) = false) :
    result.follow? p = none := by
  refine Option.eq_none_iff_forall_ne_some.mpr fun u hu => ?_
  have hs : result.at? (Pointer.ofPath p) = none := Option.isSome_eq_false_iff.mp h |> Option.isNone_iff_eq_none.mp
  have hn : Pointer.ofPath p ≠ "/" := fun hn => by rw [hn, Json.at?_slash] at hs; contradiction
  rw [Json.at?_ofPath hb hn hu] at hs
  contradiction

-- Wherever a path goes on, there is an array or object with places of the kind it goes on through.
theorem exists_fits_of_follow? (h : data.follow? p = some v) :
    ∀ q slot s, p = q ++ slot :: s → ∃ v, data.follow? q = some v ∧ slot.fits v := by
  rintro q slot s rfl
  have ⟨v, hv, _⟩ := Option.bind_eq_some_iff.mp (Json.follow?_append ▸ h)
  exact ⟨v, hv, Json.fits_of_follow? h hv⟩

-- One step below the end of a path, this may be the step that goes on from its end.
theorem exists_fits_of_concat {slot slot' : Slot} {s : Path} (h : data.follow? p = some v) (he : p ++ [slot'] = q ++ slot :: s) :
    (q = p ∧ slot = slot') ∨ ∃ v, data.follow? q = some v ∧ slot.fits v := by
  rcases List.eq_nil_or_concat s with rfl | ⟨s, last, rfl⟩
  case inl =>
    have ⟨hq, hl⟩ := List.append_inj' he rfl
    exact .inl ⟨hq.symm, (List.cons.inj hl).1.symm⟩
  case inr =>
    have he : p ++ [slot'] = (q ++ slot :: s) ++ [last] := by simpa using he
    exact .inr (exists_fits_of_follow? h q slot s (List.append_inj' he rfl).1)

-- At a scalar there is no array or object, and nothing is below it.
theorem not_isContainer_below {s : Path} (hp : data.follow? p = some v) (hv : v.isContainer = false)
    (hu : data.follow? (p ++ s) = some u) : ¬u.isContainer := by
  rw [Json.follow?_append, hp, Option.bind_some] at hu
  cases s
  case nil => simp [← Option.some.inj hu, hv]
  case cons => rw [Json.follow?_of_not_isContainer hv (by simp)] at hu; contradiction

namespace Due

theorem tokens_ne (hn : data.follow? [.member ""] = none) (h : Due data result w) : w.1.map Slot.token ≠ [""] := by
  intro ht
  cases h
  case scalar p v x hp _ =>
    have ht : p.map Slot.token = [""] := ht
    rw [eq_of_tokens_eq ht, hn] at hp
    contradiction
  case required p _ name _ _ _ h =>
    -- This is the pointer of the root, where there is something.
    have ht : (p ++ [Slot.member name]).map Slot.token = [""] := ht
    rw [Pointer.ofPath, ht] at h
    exact absurd h (by simp [show result.has (.text (Pointer.compile [""])) = true from rfl])

theorem bounded (hs : data.Short) (h : Due data result w) : ∀ slot ∈ w.1, slot.Bounded := by
  cases h
  case scalar hp _ => exact hs.follow hp
  case required hp _ _ => exact List.forall_mem_append.mpr ⟨hs.follow hp, by simp [Slot.Bounded]⟩

-- On the way of a write the data have arrays and objects in which there is a place of the kind it goes through.
theorem way {slot : Slot} {s : Path} (h : Due data result w) (he : w.1 = q ++ slot :: s) :
    ∃ v, data.follow? q = some v ∧ (v.isContainer → slot.fits v) := by
  cases h
  case scalar hp _ =>
    have ⟨v, hv, hf⟩ := exists_fits_of_follow? hp q slot s he
    exact ⟨v, hv, fun _ => hf⟩
  case required p v name _ hp hv _ =>
    rcases exists_fits_of_concat hp he with ⟨rfl, rfl⟩ | ⟨v, hv, hf⟩
    · exact ⟨v, hp, fun hc => hv hc⟩
    · exact ⟨v, hv, fun _ => hf⟩

-- What is written at an array or object is an empty one.
theorem isContainer (h : Due data result w) (hv : data.follow? w.1 = some v) (hc : v.isContainer) : w.2.isContainer := by
  cases h
  case scalar hp hs => exact absurd hc (by simp [← Option.some.inj (hp.symm.trans hv), hs])
  case required b _ _ _ => cases b <;> rfl

end Due

theorem Opens.plain {slot : Slot} {s : Path} (h : Opens w p v) (he : w.1 = p ++ slot :: s) : slot.Plain := by
  rcases h with ⟨hp, -⟩ | ⟨slot', s', he', hplain⟩
  · simp [hp] at he
  · rw [he'] at he
    exact (List.cons.inj (List.append_cancel_left he)).1 ▸ hplain

-- An empty container of the right kind leaves a result faithful, where nothing inside has been touched.
theorem Faithful.apply_emptyContainer {b : Bool} (hf : Faithful data result touched) (ht : p.map Slot.token ≠ [""])
    (htakes : result.Takes p) (hway : ∀ q slot s, p = q ++ slot :: s → ∃ v, data.follow? q = some v ∧ slot.fits v)
    (hkind : ∀ v, data.follow? p = some v → v.isContainer → (Json.emptyContainer b).kind = v.kind)
    (hnew : ∀ slot s v, data.follow? (p ++ slot :: s) = some v → v.isContainer → ¬touched (p ++ slot :: s)) :
    Faithful data (apply result (p, Json.emptyContainer b)) fun q => touched q ∨ q <+: p := by
  rw [apply_eq ht, Json.setTokens_path_of_takes htakes]
  refine hf.amend htakes.admits List.prefix_rfl hway fun s v hv hc => ?_
  cases s
  case nil =>
    rw [List.append_nil] at hv ⊢
    exact ⟨fun _ => ⟨_, rfl, hkind v hv hc⟩, fun h => absurd (.inr List.prefix_rfl) h⟩
  case cons slot s =>
    refine ⟨fun h => h.elim (absurd · (hnew slot s v hv hc)) fun h => ?_, fun _ => ?_⟩
    · simpa using h.length_le
    · simp [atSlot?_emptyContainer, Json.isNull]

-- A write that makes what it touches first as it should be leaves a result faithful.
theorem Faithful.apply (hs : data.Short) (hn : data.follow? [.member ""] = none) (hf : Faithful data result touched)
    (hd : Due data result w) (hg : Good data touched w) :
    Faithful data (apply result w) fun p => touched p ∨ p <+: w.1 := by
  have hopen : ∀ q slot s v, w.1 = q ++ slot :: s → data.follow? q = some v → v.isContainer → ¬touched q → slot.Plain :=
    fun q slot s v he hv hc ht => (hg q v hv hc (he ▸ List.prefix_append q _) ht).plain he
  have hb := hd.bounded hs
  have ht := hd.tokens_ne hn
  cases hd
  case scalar p v x hp hv =>
    have hway := exists_fits_of_follow? hp
    have htakes := hf.takes hb hway hopen
    rw [apply_eq ht, Json.setTokens_path_of_takes htakes]
    exact hf.amend htakes.admits List.prefix_rfl hway fun s v' hv' hc => absurd hc (not_isContainer_below hp hv hv')
  case required p v name b hp hv hh =>
    by_cases hc : v.isContainer = true
    case pos =>
      have hway : ∀ q slot s, p ++ [.member name] = q ++ slot :: s → ∃ v, data.follow? q = some v ∧ slot.fits v := by
        intro q slot s he
        rcases exists_fits_of_concat hp he with ⟨rfl, rfl⟩ | h
        · exact ⟨v, hp, hv hc⟩
        · exact h
      -- The place is touched now for the first time, and nothing below it is.
      have hnew : ∀ s v, data.follow? (p ++ [.member name] ++ s) = some v → v.isContainer →
          ¬touched (p ++ [.member name] ++ s) := by
        intro s v' hv' hc' ht
        have ⟨_, hu, _⟩ := (hf _ v' hv' hc').1 ht
        rw [Json.follow?_append, follow?_eq_none_of_has hb hh] at hu
        contradiction
      refine hf.apply_emptyContainer ht (hf.takes hb hway hopen) hway (fun v' hv' hc' => ?_) fun slot s => hnew (slot :: s)
      have hnew := hnew [] v' (by simpa using hv') hc'
      rw [List.append_nil] at hnew
      rcases hg _ v' hv' hc' List.prefix_rfl hnew with ⟨-, hk⟩ | ⟨_, _, he, _⟩
      · exact hk
      · simp at he
    case neg =>
      have hway := exists_fits_of_follow? hp
      have htakes := hf.takes (List.forall_mem_append.mp hb).1 hway fun q slot s v he =>
        hopen q slot (s ++ [.member name]) v (by simp [he])
      rw [apply_eq ht, List.map_append, Json.setTokens_append_of_takes htakes]
      exact hf.amend htakes.admits (List.prefix_append p _) hway fun s v' hv' hc' =>
        absurd hc' (not_isContainer_below hp (by simpa using hc) hv')

theorem isContainer_of_kind_eq (h : u.kind = v.kind) (hv : v.isContainer) : u.isContainer := by
  cases u <;> cases v <;> simp_all [Json.kind, Json.isContainer]

-- Of the places that a write touches first and gets wrong, the outermost one.
theorem exists_outermost (hb : ¬Good data touched w) : ∃ p v, data.follow? p = some v ∧ v.isContainer ∧ p <+: w.1 ∧
    ¬touched p ∧ ¬Opens w p v ∧
      ∀ q slot s u, p = q ++ slot :: s → data.follow? q = some u → u.isContainer → ¬touched q → Opens w q u := by
  simp only [Good, not_forall, exists_prop] at hb
  obtain ⟨p, v, hv, hc, hp, ht, ho⟩ := hb
  induction hl : p.length using Nat.strong_induction_on generalizing p v
  case h n hi =>
    by_cases hout : ∀ q slot s u, p = q ++ slot :: s → data.follow? q = some u → u.isContainer → ¬touched q → Opens w q u
    case pos => exact ⟨p, v, hv, hc, hp, ht, ho, hout⟩
    case neg =>
      simp only [not_forall, exists_prop] at hout
      obtain ⟨q, slot, s, u, rfl, hu, huc, htq, hoq⟩ := hout
      exact hi q.length (by simp [← hl]) q u hu huc ((List.prefix_append q _).trans hp) htq hoq rfl

-- A write that gets something wrong makes an array of an object, or the other way round.
theorem Faithful.wrong (hs : data.Short) (hn : data.follow? [.member ""] = none) (hf : Faithful data result touched)
    (hd : Due data result w) (hb : ¬Good data touched w) : Wrong data (FormData.apply result w) := by
  obtain ⟨p, v, hv, hc, ⟨r, hr⟩, ht, ho, hout⟩ := exists_outermost hb
  have hbounded := hd.bounded hs
  have htakes : result.Takes p := by
    refine hf.takes (fun slot hm => hbounded slot (hr ▸ List.mem_append_left r hm)) (exists_fits_of_follow? hv) ?_
    exact fun q slot s u he hu huc htq => (hout q slot s u he hu huc htq).plain (s := s ++ r) (by simp [← hr, he])
  have hnull := (hf p v hv hc).2 ht
  have hafter : (FormData.apply result w).follow? p =
      some ((((result.follow? p).getD .null).setTokens (r.map Slot.token) w.2 false).2) := by
    rw [apply_eq (hd.tokens_ne hn), ← hr, List.map_append, Json.setTokens_append_of_takes htakes]
    simpa using Json.follow?_amend_append (s := []) (f := fun u => (u.setTokens (r.map Slot.token) w.2 false).2) htakes.admits
  refine ⟨p, _, v, hv, hafter, hc, ?_⟩
  cases r
  case nil =>
    rw [List.append_nil] at hr
    exact ⟨hd.isContainer (hr ▸ hv) hc, fun hk => ho (.inl ⟨hr.symm, hk⟩)⟩
  case cons slot s =>
    -- Nothing stands there, and the token of a name is taken for a position: an array is made.
    have hplain : ¬slot.Plain := fun hplain => ho (.inr ⟨slot, s, hr.symm, hplain⟩)
    have ⟨v', hv', hfits⟩ := hd.way hr.symm
    obtain rfl := Option.some.inj (hv.symm.trans hv')
    have hk : (((result.follow? p).getD .null).setTokens (slot.token :: s.map Slot.token) w.2 false).2.kind = _ :=
      Json.kind_setTokens
    rw [Json.containerFor, if_pos hnull] at hk
    cases slot
    case item => exact absurd (hbounded (.item _) (by simp [← hr])) hplain
    case member name =>
      have hindex : Pointer.isIndexToken name = true := by simpa [Slot.Plain] using hplain
      rw [Slot.token, hindex] at hk
      have hobj := hfits hc
      refine ⟨isContainer_of_kind_eq hk rfl, fun he => ?_⟩
      rw [List.map_cons, Slot.token, hk] at he
      cases v <;> first | contradiction | simp [Json.emptyContainer, Json.kind] at he

-- What has become something else stays so: no write ends at it or above.
theorem Wrong.apply (hs : data.Short) (hn : data.follow? [.member ""] = none) (hw : Wrong data result)
    (hd : Due data result w) : Wrong data (FormData.apply result w) := by
  obtain ⟨p, u, v, hv, hu, hvc, huc, hk⟩ := hw
  have hp : ¬w.1.map Slot.token <+: p.map Slot.token := by
    intro h
    obtain ⟨q, ⟨r, rfl⟩, ht⟩ := List.prefix_map_iff.mp h
    cases hd
    case scalar hp' hv' =>
      have ⟨_, hq, _⟩ := Option.bind_eq_some_iff.mp (Json.follow?_append ▸ hv)
      exact not_isContainer_below hp' hv' (Json.eq_of_follow? hp' hq ht ▸ hv) hvc
    case required hh =>
      have hb : ∀ slot ∈ q, slot.Bounded := fun slot hm => hs.follow hv slot (List.mem_append_left r hm)
      have ht : Pointer.ofPath _ = Pointer.ofPath q := congrArg Pointer.compile ht
      rw [Json.follow?_append, follow?_eq_none_of_has hb (ht ▸ hh)] at hu
      contradiction
  have ⟨u', hu', hk'⟩ := Json.exists_follow?_setTokens (v := w.2) hu huc hp
  exact ⟨p, u', v, hv, apply_eq (hd.tokens_ne hn) ▸ hu', hvc, isContainer_of_kind_eq hk' huc, hk' ▸ hk⟩

section Run

theorem Wrong.replay (hs : data.Short) (hn : data.follow? [.member ""] = none) (hw : Wrong data result)
    (hd : AllDue data ws result) : Wrong data (replay ws result) := by
  induction ws generalizing result
  case nil => exact hw
  case cons w ws hi => exact hi (hw.apply hs hn hd.1) hd.2

-- If each write makes what it touches first as it should be, the result is faithful; else something is wrong in it.
theorem Faithful.sameKinds_iff (hs : data.Short) (hn : data.follow? [.member ""] = none) (hc : data.isContainer)
    (hroot : touched []) (hf : Faithful data result touched) (hd : AllDue data ws result) :
    SameKinds data (FormData.replay ws result) ↔ AllGood data ws touched := by
  induction ws generalizing result touched
  case nil => exact iff_of_true (hf.sameKinds hc hroot) trivial
  case cons w ws hi =>
    by_cases hg : Good data touched w
    case pos => exact (hi (.inl hroot) (hf.apply hs hn hd.1 hg) hd.2).trans (and_iff_right hg).symm
    case neg => exact iff_of_false ((hf.wrong hs hn hd.1 hg).replay hs hn hd.2).not_sameKinds fun h => hg h.1

theorem firstThrough_cons : firstThrough (w :: ws) p = if p <+: w.1 then some w else firstThrough ws p := by
  rw [firstThrough, List.find?_cons, firstThrough]
  split
  case h_1 h => rw [if_pos (List.isPrefixOf_iff_prefix.mp h)]
  case h_2 h => rw [if_neg (mt List.isPrefixOf_iff_prefix.mpr (by simp [h]))]

theorem allGood_iff : AllGood data ws touched ↔ ∀ p v w, data.follow? p = some v → v.isContainer → ¬touched p →
    firstThrough ws p = some w → Opens w p v := by
  induction ws generalizing touched
  case nil => simp [AllGood, firstThrough]
  case cons w ws hi =>
    rw [AllGood, hi]
    constructor
    case mp =>
      rintro ⟨hg, hi⟩ p v w' hv hc ht hw
      rw [firstThrough_cons] at hw
      split at hw
      case isTrue hp => exact Option.some.inj hw ▸ hg p v hv hc hp ht
      case isFalse hp => exact hi p v w' hv hc (not_or_intro ht hp) hw
    case mpr =>
      refine fun h => ⟨fun p v hv hc hp ht => ?_, fun p v w' hv hc ht hw => ?_⟩
      · exact h p v w hv hc ht (by rw [firstThrough_cons, if_pos hp])
      · have ⟨ht, hp⟩ := not_or.mp ht
        exact h p v w' hv hc ht (by rw [firstThrough_cons, if_neg hp, hw])

end Run

end FormData

end FormModel
