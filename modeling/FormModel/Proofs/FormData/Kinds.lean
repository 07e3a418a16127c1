import FormModel.Proofs.Build.Outcome
import FormModel.Proofs.FormData.Faithful

/-!
Arrays and objects in formatted data.  With empty fields kept, each is written at its own place before anything is written
inside it.  Without them, arrays and objects are made where a write comes through; so an object stays an object exactly if
what is first written at or below it is an object itself, or stands under a name that does not look like a position.
-/

namespace FormModel

namespace FormData

/-- Whether arrays and objects of the data stand where the form has arrays and objects, as far as it knows. -/
def KindsKnown (c : Context) (data : Json) : Prop :=
  ∀ p v type, data.follow? p = some v → v.isContainer →
    (known? c (Pointer.ofPath p)).bind NodeOptions.primaryType? = some type → type = v.kind

variable {c : Context} {fixErrors : Bool} {data result u v : Json} {p : Path} {ws ws' : List (Path × Json)} {o : NodeOptions}
  {touched touched' : Path → Prop}

section Due

theorem allDue_append : AllDue data (ws ++ ws') result ↔ AllDue data ws result ∧ AllDue data ws' (replay ws result) := by
  induction ws generalizing result
  case nil => simp [AllDue, replay]
  case cons w ws hi => rw [List.cons_append, AllDue, hi, AllDue, and_assoc]; rfl

theorem allDue_requiredWrites {generic : String} {names : List String} (hp : data.follow? p = some v)
    (hv : v.isContainer → v.isObj) : AllDue data (requiredWrites c generic p names result) result := by
  induction names generalizing result
  case nil => trivial
  case cons name names hi =>
    rw [requiredWrites]
    cases hk : requiredContainer? c generic name
    case none => exact hi
    case some container =>
      obtain ⟨b, rfl⟩ := requiredContainer?_eq hk
      dsimp only
      split
      case isTrue => exact hi
      case isFalse hh => exact ⟨.required hp hv (by simpa using hh), hi⟩

-- The type of the place of an array or object is its kind, or not known.
theorem primaryType?_container (hk : KindsKnown c data) (hp : data.follow? p = some v) (hv : v.isContainer)
    (ho : known? c (Pointer.ofPath p) = some o) : o.primaryType?.getD "" = v.kind ∨ o.primaryType?.getD "" = "" := by
  cases ht : o.primaryType?
  case none => exact .inr rfl
  case some type => exact .inl (hk p v type hp hv (by rw [ho, Option.bind_some, ht]))

theorem typedWrites_container (hk : KindsKnown c data) (hp : data.follow? p = some v) (hv : v.isContainer)
    (ho : known? c (Pointer.ofPath p) = some o) : typedWrites c fixErrors p o v result =
      if v.isObj then
        if o.primaryType?.getD "" = "object" then
          requiredWrites c (knownPointer c (Pointer.ofPath p)) p o.required result
        else []
      else [] := by
  have ht := primaryType?_container hk hp hv ho
  have hs : isScalarType (o.primaryType?.getD "") = false := by
    rcases ht with ht | ht <;> rw [ht]
    · cases v <;> first | contradiction | rfl
    · rfl
  rw [typedWrites, typed?, hs, Bool.and_false]
  rcases ht with ht | ht <;> rw [ht]
  · cases v <;> first | contradiction | rfl
  · simp

theorem allDue_typedWrites (hk : KindsKnown c data) (hp : data.follow? p = some v) (ho : known? c (Pointer.ofPath p) = some o) :
    AllDue data (typedWrites c fixErrors p o v result) result := by
  cases hv : v.isContainer
  case true =>
    rw [typedWrites_container hk hp hv ho]
    repeat' split
    case isTrue.isTrue hobj _ => exact allDue_requiredWrites hp fun _ => hobj
    all_goals trivial
  case false =>
    rw [typedWrites]
    repeat' split
    case isTrue => exact ⟨.scalar hp hv, trivial⟩
    case h_1 => exact ⟨.scalar hp hv, trivial⟩
    case isTrue => exact allDue_requiredWrites hp fun h => absurd h (by simp [hv])
    case isFalse => trivial

theorem dateTime?_container (hv : v.isContainer) : dateTime? o fixErrors v = none := by
  cases v <;> first | contradiction | simp [dateTime?, Json.string?]

theorem allDue_writesAt (hk : KindsKnown c data) (hp : data.follow? p = some v) :
    AllDue data (writesAt c fixErrors p v result) result := by
  rw [writesAt]
  cases ho : known? c (Pointer.ofPath p)
  case none => trivial
  case some o =>
    refine allDue_append.mpr ⟨allDue_typedWrites hk hp ho, ?_⟩
    cases hv : v.isContainer
    case true => rw [dateTime?_container hv]; trivial
    case false => cases dateTime? o fixErrors v <;> first | trivial | exact ⟨.scalar hp hv, trivial⟩

theorem allDue_writesFrom {es : List (Path × Json)} (hk : KindsKnown c data) (h : ∀ e ∈ es, data.follow? e.1 = some e.2) :
    AllDue data (writesFrom c fixErrors es result) result := by
  induction es generalizing result
  case nil => trivial
  case cons e es hi =>
    have ⟨he, h⟩ := List.forall_mem_cons.mp h
    exact allDue_append.mpr ⟨allDue_writesAt hk he, hi h⟩

end Due

section EmptyFields

theorem Faithful.congr (hf : Faithful data result touched)
    (h : ∀ p v, data.follow? p = some v → v.isContainer → (touched p ↔ touched' p)) : Faithful data result touched' := by
  intro p v hv hc
  rw [← h p v hv hc]
  exact hf p v hv hc

-- What is written for a scalar is written at its place.
theorem exists_write_scalar (hv : v.isContainer = false) : ∃ xs : List Json,
    write c ⟨true, fixErrors⟩ (Pointer.ofPath p) v result = replay (xs.map (p, ·)) result := by
  simp only [write, hv, Bool.and_false, Bool.false_eq_true, if_false]
  split
  case h_1 => exact ⟨[], rfl⟩
  case h_2 o _ =>
    obtain ⟨xs, hx⟩ : ∃ xs : List Json,
        writeTyped c ⟨true, fixErrors⟩ (knownPointer c (Pointer.ofPath p)) (Pointer.ofPath p) o v result =
          replay (xs.map (p, ·)) result := by
      simp only [writeTyped, Bool.not_true, Bool.and_false, Bool.false_eq_true, if_false]
      repeat' split
      case isTrue => exact ⟨[.null], rfl⟩
      case h_1 x _ => exact ⟨[x], rfl⟩
      all_goals exact ⟨[], rfl⟩
    rw [writeDateTime_eq, hx]
    split
    case h_1 x _ => exact ⟨xs ++ [x], by rw [List.map_append, replay_append]; rfl⟩
    case h_2 => exact ⟨xs, rfl⟩

-- Writes at a scalar leave a result faithful if all that the scalar is inside of is there.
theorem Faithful.replay_scalar (hs : data.Short) (hn : data.follow? [.member ""] = none) (hf : Faithful data result touched)
    (hp : data.follow? p = some v) (hv : v.isContainer = false)
    (ht : ∀ q u, data.follow? q = some u → u.isContainer → q <+: p → touched q) (xs : List Json) :
    Faithful data (replay (xs.map (p, ·)) result) touched := by
  induction xs generalizing result
  case nil => exact hf
  case cons x xs hi =>
    have hgood : Good data touched (p, x) := fun q u hu hc hq hnt => absurd (ht q u hu hc hq) hnt
    refine hi ((hf.apply hs hn (.scalar hp hv) hgood).congr fun q u hu hc => ?_)
    exact or_iff_left_of_imp (ht q u hu hc)

-- An empty container written at the place of an array or object leaves a result faithful if all that this is inside of is
-- there, and nothing inside of it.
theorem Faithful.apply_container (hs : data.Short) (hn : data.follow? [.member ""] = none) (hf : Faithful data result touched)
    (hp : data.follow? p = some v) (hv : v.isContainer)
    (ht : ∀ q u, data.follow? q = some u → u.isContainer → q <+: p → q ≠ p → touched q)
    (hnew : ∀ slot s, ¬touched (p ++ slot :: s)) :
    Faithful data (FormData.apply result (p, Json.emptyContainer v.isArr)) fun q => touched q ∨ q <+: p := by
  have hway := exists_fits_of_follow? hp
  have htakes : result.Takes p := by
    refine hf.takes (hs.follow hp) hway fun q slot s u he hu hc hnt => ?_
    exact absurd (ht q u hu hc (he ▸ List.prefix_append q _) (by simp [he])) hnt
  have htokens : p.map Slot.token ≠ [""] := fun h => by
    rw [eq_of_tokens_eq h, hn] at hp
    contradiction
  refine hf.apply_emptyContainer htokens htakes hway (fun u hu _ => ?_) fun slot s _ _ _ => hnew slot s
  exact Option.some.inj (hp.symm.trans hu) ▸ kind_emptyContainer hv

-- Whether the walk has come to a place or to something inside it; the root has been there before.
def Visited (before : List (Path × Json)) (p : Path) : Prop := p = [] ∨ ∃ e ∈ before, p <+: e.1

theorem visited_concat {before : List (Path × Json)} {e : Path × Json} :
    Visited (before ++ [e]) p ↔ Visited before p ∨ p <+: e.1 := by
  simp [Visited, or_and_right, exists_or, or_assoc]

theorem Faithful.write_emptyFields {before after : List (Path × Json)} {e : Path × Json} (hd : data.Distinct) (hs : data.Short)
    (hn : data.follow? [.member ""] = none) (hsplit : data.places = before ++ e :: after)
    (hf : Faithful data result (Visited before)) :
    Faithful data (write c ⟨true, fixErrors⟩ (Pointer.ofPath e.1) e.2 result) (Visited (before ++ [e])) := by
  have he : data.follow? e.1 = some e.2 := (Json.mem_places_iff data hd).mp (by simp [hsplit])
  have hbefore : ∀ q u, data.follow? q = some u → u.isContainer → q <+: e.1 → q ≠ e.1 → Visited before q :=
    fun q u hu _ hq hne => .inr ⟨_, Json.mem_before_of_prefix hd hsplit hu hq hne, List.prefix_rfl⟩
  cases hv : e.2.isContainer
  case true =>
    have hnew : ∀ slot s, ¬Visited before (e.1 ++ slot :: s) := by
      rintro slot s (h | ⟨e', he', h⟩)
      · simp at h
      · exact Json.not_prefix_of_mem_before hd hsplit he' ((List.prefix_append _ _).trans h)
    have hw : FormData.write c ⟨true, fixErrors⟩ (Pointer.ofPath e.1) e.2 result =
        FormData.apply result (e.1, Json.emptyContainer e.2.isArr) := by
      simp only [FormData.write, hv, Bool.and_self, if_true]
      rfl
    rw [hw]
    exact (hf.apply_container hs hn he hv hbefore hnew).congr fun _ _ _ _ => visited_concat.symm
  case false =>
    have hall : ∀ q u, data.follow? q = some u → u.isContainer → q <+: e.1 → Visited before q := by
      intro q u hu hc hq
      refine hbefore q u hu hc hq fun hqe => ?_
      rw [hqe, he] at hu
      exact absurd hc (by rw [← Option.some.inj hu, hv]; simp)
    obtain ⟨xs, hx⟩ : ∃ xs : List Json, FormData.write c ⟨true, fixErrors⟩ (Pointer.ofPath e.1) e.2 result =
        replay (xs.map (e.1, ·)) result := exists_write_scalar hv
    rw [hx]
    refine (hf.replay_scalar hs hn he hv hall xs).congr fun q u hu hc => ?_
    rw [visited_concat, or_iff_left_of_imp (hall q u hu hc)]

theorem Faithful.write_all_emptyFields {before after : List (Path × Json)} (hd : data.Distinct) (hs : data.Short)
    (hn : data.follow? [.member ""] = none) (hsplit : data.places = before ++ after)
    (hf : Faithful data result (Visited before)) :
    Faithful data (after.foldl (fun result e => FormData.write c ⟨true, fixErrors⟩ (Pointer.ofPath e.1) e.2 result) result)
      (Visited data.places) := by
  induction after generalizing before result
  case nil => rwa [hsplit, List.append_nil]
  case cons e after hi => exact hi (by rw [hsplit, List.append_cons]) (hf.write_emptyFields hd hs hn hsplit)

end EmptyFields

theorem visited_nil : Visited [] p ↔ p = [] := by simp [Visited]

theorem faithful_emptyContainer (hc : data.isContainer) :
    Faithful data (Json.emptyContainer data.isArr) (Visited []) := by
  intro p v hv _
  rw [visited_nil]
  cases p
  case nil =>
    obtain rfl := Option.some.inj hv
    exact ⟨fun _ => ⟨_, rfl, kind_emptyContainer hc⟩, fun h => absurd rfl h⟩
  case cons => exact ⟨fun h => by simp at h, fun _ => by simp [atSlot?_emptyContainer, Json.isNull]⟩

theorem sameKinds_self : SameKinds data data where
  root := rfl
  inside hv hu _ _ := by rw [Option.some.inj (hu.symm.trans hv)]

/-- Where arrays and objects stand where the form has arrays and objects, and the root has no member without a name,
formatting leaves every array an array and every object an object if empty fields are kept.  If they are not, it does so
exactly if for each array or object inside the data, what is first written at it or below it is written at it and of its
kind, or below it under a token that cannot be taken for one of another kind. -/
theorem format_sameKinds_iff {c : Context} {options : FormatOptions} {data : Json} (hd : data.Distinct) (hs : data.Short)
    (hn : data.follow? [.member ""] = none) (hk : KindsKnown c data) :
    (options.emptyFields = true → SameKinds data (format c options data)) ∧
      (options.emptyFields = false → (SameKinds data (format c options data) ↔
        ∀ p v w, data.follow? p = some v → v.isContainer → p ≠ [] →
          firstThrough (writes c options.fixErrors data) p = some w → Opens w p v)) := by
  obtain ⟨emptyFields, fixErrors⟩ := options
  cases hc : data.isContainer
  case false =>
    have hf : format c ⟨emptyFields, fixErrors⟩ data = data := if_neg (by simp [hc])
    rw [hf]
    refine ⟨fun _ => sameKinds_self, fun _ => iff_of_true sameKinds_self fun p v w hv _ hp _ => ?_⟩
    rw [Json.follow?_of_not_isContainer hc hp] at hv
    contradiction
  case true =>
    have hempty := faithful_emptyContainer hc
    refine ⟨fun h => ?_, fun h => ?_⟩
    case refine_1 =>
      obtain rfl : emptyFields = true := h
      rw [format, if_pos hc, Json.nodes_eq_places, List.foldl_map]
      exact (hempty.write_all_emptyFields hd hs hn (List.nil_append _).symm).sameKinds hc (.inl rfl)
    case refine_2 =>
      obtain rfl : emptyFields = false := h
      have hdue : AllDue data (writes c fixErrors data) (Json.emptyContainer data.isArr) :=
        allDue_writesFrom hk fun e he => (Json.mem_places_iff data hd).mp he
      rw [format_eq_replay hc, hempty.sameKinds_iff hs hn hc (.inl rfl) hdue, allGood_iff]
      simp only [visited_nil, ne_eq]

theorem kindsKnown_of_places (hd : data.Distinct) (h : ∀ e ∈ data.places, e.2.isContainer →
    (known? c (Pointer.ofPath e.1)).bind NodeOptions.primaryType? ∈ [none, some e.2.kind]) : KindsKnown c data := by
  intro p v type hv hc ht
  have h := h (p, v) ((Json.mem_places_iff data hd).mpr hv) hc
  rw [ht] at h
  simpa using h

-- A form with an object in it, one of whose members has the name of a position.
def digitSchema : Json := .obj [("type", "object"), ("properties", .obj [("a", .obj [("type", "object"),
  ("properties", .obj [("b", .obj [("type", "string")]), ("0", .obj [("type", "string")])])])])]

-- Data for it in which another member comes first.
def namedData : Json := .obj [("a", .obj [("b", "y"), ("0", "x")])]

theorem distinct_named : namedData.Distinct := by
  simp [namedData, Json.Distinct, Json.DistinctMembers, Dict.keys]

theorem format_sameKinds_named : ∃ out, compile? digitSchema .null false = some out ∧ namedData.Distinct ∧ namedData.Short ∧
    namedData.follow? [.member ""] = none ∧ KindsKnown out.context namedData ∧
      SameKinds namedData (format out.context ⟨false, false⟩ namedData) := by
  have hc : (compile? digitSchema .null false).map (fun out =>
      (decide (∀ e ∈ namedData.places, e.2.isContainer →
        (known? out.context (Pointer.ofPath e.1)).bind NodeOptions.primaryType? ∈ [none, some e.2.kind]),
      (firstThrough (writes out.context false namedData) [.member "a"]).map (·.1))) =
        some (true, some [.member "a", .member "b"]) := by decide
  have ⟨out, ho, hm⟩ := Option.map_eq_some_iff.mp hc
  have ⟨hk, hfirst⟩ := Prod.mk.inj hm
  have hk := kindsKnown_of_places distinct_named (of_decide_eq_true hk)
  have hs : namedData.Short := fun items hi => by simp [namedData, Json.parts, Json.partsOfMembers] at hi
  have hn : namedData.follow? [.member ""] = none := rfl
  refine ⟨out, ho, distinct_named, hs, hn, hk, ((format_sameKinds_iff distinct_named hs hn hk).2 rfl).mpr ?_⟩
  intro p v w hv hc hp hw
  have hm := (Json.mem_places_iff namedData distinct_named).mpr hv
  simp only [namedData, Json.places, Json.placesOfMembers, Json.inside, List.map_cons, List.map_nil, List.append_nil,
    List.cons_append, List.nil_append, List.mem_cons, Prod.mk.injEq, List.not_mem_nil, or_false] at hm
  rcases hm with ⟨rfl, -⟩ | ⟨rfl, -⟩ | ⟨-, rfl⟩ | ⟨-, rfl⟩
  case inl => contradiction
  case inr.inl =>
    rw [hw] at hfirst
    exact .inr ⟨.member "b", [], Option.some.inj hfirst, rfl⟩
  all_goals contradiction

-- Data for it in which the member with the name of a position is the only one.
def digitData : Json := .obj [("a", .obj [("0", "x")])]

theorem object_of_digits_becomes_array : ∃ out, compile? digitSchema .null false = some out ∧ KindsKnown out.context digitData ∧
    ¬SameKinds digitData (format out.context ⟨false, false⟩ digitData) := by
  have hc : (compile? digitSchema .null false).map (fun out =>
      (decide (∀ e ∈ digitData.places, e.2.isContainer →
        (known? out.context (Pointer.ofPath e.1)).bind NodeOptions.primaryType? ∈ [none, some e.2.kind]),
      ((format out.context ⟨false, false⟩ digitData).follow? [.member "a"]).map Json.kind)) = some (true, some "array") := by
    decide
  have ⟨out, ho, hm⟩ := Option.map_eq_some_iff.mp hc
  have ⟨hk, hkind⟩ := Prod.mk.inj hm
  have ⟨u, hu, hkind⟩ := Option.map_eq_some_iff.mp hkind
  have hd : digitData.Distinct := by simp [digitData, Json.Distinct, Json.DistinctMembers, Dict.keys]
  refine ⟨out, ho, kindsKnown_of_places hd (of_decide_eq_true hk), fun hs => ?_⟩
  have hv : digitData.follow? [.member "a"] = some (.obj [("0", "x")]) := rfl
  have he := hs.inside hv hu rfl (isContainer_of_kind_eq (v := .arr []) hkind rfl)
  rw [hkind] at he
  simp [Json.kind] at he

end FormData

end FormModel
