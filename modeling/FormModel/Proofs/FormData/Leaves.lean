import FormModel.FormData
import FormModel.Proofs.Coercion
import FormModel.Proofs.Pointer.Write

/-!
The scalars of formatted data.  The result is built by one write after the other: arrays and objects are
made where a write comes through, holes are filled with `null`, and required members are made before
anything is in them.  Nothing of that gets in the way of what is written before or after, so that in the
end the scalars are those of the data, each converted at its own place.
-/

namespace FormModel

-- Whether a value is a scalar that says something.
def Json.isLeaf (j : Json) : Bool := !j.isNull && !j.isContainer

namespace FormData

-- What is known of the place with a pointer, if its type is.
def known? (c : Context) (pointer : String) : Option NodeOptions :=
  (Dict.get? c.options (knownPointer c pointer)).filter fun o => o.schemaType.isSome

-- The date and time that a value is completed to.
def dateTime? (o : NodeOptions) (fixErrors : Bool) (value : Json) : Option Json :=
  if o.schemaFormat = some "date-time" then
    (value.string?.bind (DateTime.complete? · fixErrors)).map .str
  else none

-- What a value is converted to by the type of its place.
def typed? (o : NodeOptions) (fixErrors : Bool) (value : Json) : Option Json :=
  let declared := o.schemaType.getD .null
  if value.hasValue && isScalarType (o.primaryType?.getD "") then
    if fixErrors then value.repair? declared else value.coerce? declared true
  else none

-- What a scalar becomes in the result.
def leafValue? (c : Context) (fixErrors : Bool) (pointer : String) (value : Json) : Option Json :=
  (known? c pointer).bind fun o => dateTime? o fixErrors value <|> typed? o fixErrors value

-- Data in which tokens can be told from positions, and arrays and objects that stand where the form has
-- arrays and objects, as far as it knows.
structure Readable (c : Context) (data : Json) : Prop where
  container : data.isContainer
  distinct : data.Distinct
  plain : data.Plain
  named : data.follow? [.member ""] = none
  kind : ∀ {path v o}, data.follow? path = some v → v.isContainer → known? c (Pointer.ofPath path) = some o →
    o.primaryType? = some v.kind
  required : ∀ {pointer o name}, Dict.get? c.options pointer = some o → name ∈ o.required →
    Pointer.isIndexToken name = false
  slots : ∀ {path v o name w k}, data.follow? path = some v → known? c (Pointer.ofPath path) = some o →
    name ∈ o.required → v.atSlot? (.member name) = some w → w.isContainer →
    requiredContainer? c (knownPointer c (Pointer.ofPath path)) name = some k → k.kind = w.kind

variable {c : Context} {fixErrors : Bool} {data result u v w x k : Json} {p q : Path} {o : NodeOptions}
  {pointer name : String} {names : List String} {b : Bool}

-- A result in the shape of the data: arrays and objects where the data has them, unless there is
-- nothing yet, and scalars at most where the data has scalars.
structure Shaped (data result : Json) : Prop where
  distinct : result.Distinct
  kind : ∀ {p u w}, result.follow? p = some u → data.follow? p = some w → w.isContainer →
    u.isNull ∨ u.kind = w.kind
  leaf : ∀ {p u}, result.follow? p = some u → u.isLeaf →
    ∃ w, data.follow? p = some w ∧ w.isContainer = false

-- Whether two results have the same scalars at all places but one.
def SameOff (p : Path) (before after : Json) : Prop :=
  ∀ q u, q ≠ p → u.isLeaf → (after.follow? q = some u ↔ before.follow? q = some u)

theorem isLeaf_iff : u.isLeaf ↔ u.isNull = false ∧ u.isContainer = false := by
  simp [Json.isLeaf]

theorem tokens_ne (hr : Readable c data) (hp : data.follow? p = some v) : p.map Slot.token ≠ [""] := by
  intro ht
  obtain ⟨slot, rfl, hs⟩ := List.map_eq_singleton_iff.mp ht
  cases slot
  case item i =>
    have hn := Nat.toDigits_ne_nil (n := i) (b := 10)
    simp [Slot.token, Nat.repr, hn] at hs
  case member name =>
    rw [Slot.token] at hs
    rw [hs, hr.named] at hp
    contradiction

theorem plain_concat (hr : Readable c data) (hp : data.follow? p = some v)
    (hn : Pointer.isIndexToken name = false) : ∀ slot ∈ p ++ [.member name], slot.Plain := by
  intro slot hm
  rcases List.mem_append.mp hm with hm | hm
  · exact hr.plain.follow hp slot hm
  · exact List.mem_singleton.mp hm ▸ hn

theorem put_compile {tokens : Tokens} (h : tokens ≠ [""]) :
    result.put (Pointer.compile tokens) x = (result.setTokens tokens x false).2 := by
  have hp : (Address.text (Pointer.compile tokens)).parse? = some tokens := Pointer.parse?_compile h
  rw [Json.put, Json.set, hp]

namespace Shaped

-- A place of the data can be written, whatever has been written so far.
theorem admits (hs : Shaped data result) (hp : data.follow? p = some v) : result.Admits p := by
  refine .of_forall fun q slot s he => ?_
  subst he
  have ⟨w, hw, _⟩ := Option.bind_eq_some_iff.mp (Json.follow?_append ▸ hp)
  have hf := Json.fits_of_follow? hp hw
  cases hq : result.follow? q
  case none => exact .inl rfl
  case some u =>
    cases hs.kind hq hw (Json.isContainer_of_fits hf)
    case inl hn => exact .inl hn
    case inr hk => exact .inr (by rw [Option.getD_some, Json.fits_of_kind_eq hk, hf])

-- Writing something with nothing inside keeps the shape if it is an array or object where the data says so.
theorem amend (hs : Shaped data result) (ha : result.Admits p) (hd : x.Distinct)
    (hx : ∀ slot, x.atSlot? slot = none)
    (hfits : ∀ q slot s w, p = q ++ slot :: s → data.follow? q = some w → w.isContainer → slot.fits w)
    (hkind : ∀ w, data.follow? p = some w → w.isContainer → x.kind = w.kind)
    (hleaf : x.isLeaf → ∃ w, data.follow? p = some w ∧ w.isContainer = false) :
    Shaped data (result.amend p fun _ => x) where
  distinct := hs.distinct.amend fun _ _ => hd
  leaf {q u} hu hl := by
    have ⟨hn, hc⟩ := isLeaf_iff.mp hl
    rcases (Json.follow?_amend_const ha hx hc hn).mp hu with ⟨rfl, rfl⟩ | ⟨-, hu⟩
    · exact hleaf hl
    · exact hs.leaf hu hl
  kind {q u w} hu hw hc := by
    by_cases hp : p <+: q
    case pos =>
      obtain ⟨s, rfl⟩ := hp
      rw [Json.follow?_amend_append ha] at hu
      cases s
      case nil =>
        rw [List.append_nil] at hw
        exact .inr (Option.some.inj hu ▸ hkind w hw hc)
      case cons => simp [hx] at hu
    case neg =>
      by_cases hq : q <+: p
      case pos =>
        obtain ⟨_ | ⟨slot, s⟩, rfl⟩ := hq
        case nil => simp at hp
        case cons =>
          have ⟨_, hu', hf⟩ := Json.fits_follow?_amend (f := fun _ => x) ha
          rw [hu] at hu'
          rw [← Option.some.inj hu'] at hf
          exact .inr (Json.kind_eq_of_fits hf (hfits q slot s w rfl hw hc))
      case neg =>
        rcases Json.follow?_amend_of_not_prefix (f := fun _ => x) ha hp hq with he | ⟨-, he⟩
        · exact hs.kind (he ▸ hu) hw hc
        · rw [he] at hu
          exact .inl (Option.some.inj hu ▸ rfl)

end Shaped

theorem atSlot?_emptyContainer {slot : Slot} : (Json.emptyContainer b).atSlot? slot = none := by
  cases b <;> cases slot <;> simp [Json.emptyContainer, Json.atSlot?]

theorem distinct_emptyContainer : (Json.emptyContainer b).Distinct := by
  cases b
  case true => trivial
  case false => exact ⟨List.nodup_nil, trivial⟩

theorem isLeaf_emptyContainer : (Json.emptyContainer b).isLeaf = false := by cases b <;> rfl

theorem kind_emptyContainer (h : v.isContainer) : (Json.emptyContainer v.isArr).kind = v.kind := by
  cases v <;> simp_all [Json.isContainer, Json.isArr, Json.emptyContainer, Json.kind]

-- A scalar written at a scalar of the data.
theorem put_scalar (hr : Readable c data) (hs : Shaped data result) (hp : data.follow? p = some v)
    (hv : v.isContainer = false) (hx : x.isContainer = false) :
    Shaped data (result.put (Pointer.ofPath p) x) ∧
      (result.put (Pointer.ofPath p) x).follow? p = some x ∧
      SameOff p result (result.put (Pointer.ofPath p) x) := by
  have ha := hs.admits hp
  have hn : ∀ slot, x.atSlot? slot = none := fun _ => Json.atSlot?_of_not_isContainer hx
  have hd : x.Distinct := by cases x <;> trivial
  rw [Pointer.ofPath, put_compile (tokens_ne hr hp), Json.setTokens_path (hr.plain.follow hp) ha]
  refine ⟨hs.amend ha hd hn ?fits ?kind fun _ => ⟨v, hp, hv⟩, ?self, ?off⟩
  case fits =>
    intro q slot s w he hw _
    exact Json.fits_of_follow? (he ▸ hp) hw
  case kind =>
    intro w hw hc
    rw [hp] at hw
    rw [← Option.some.inj hw, hv] at hc
    contradiction
  case self => simpa using Json.follow?_amend_append (s := []) (f := fun _ => x) ha
  case off =>
    intro q u hq hl
    obtain ⟨hn', hc⟩ := isLeaf_iff.mp hl
    rw [Json.follow?_amend_const ha hn hc hn']
    refine ⟨fun h => ?_, fun h => .inr ⟨?_, h⟩⟩
    · rcases h with ⟨h, -⟩ | ⟨-, h⟩
      · exact absurd h hq
      · exact h
    · -- There are no scalars below a scalar.
      rintro ⟨s, rfl⟩
      obtain ⟨w, hw, _⟩ := hs.leaf h hl
      rw [Json.follow?_append, hp, Option.bind_some, Json.follow?_of_not_isContainer hv (by simpa using hq)]
        at hw
      contradiction

-- An empty container for a required member, where there is nothing yet.
theorem put_required (hr : Readable c data) (hs : Shaped data result)
    (hp : data.follow? p = some v) (hv : v.isContainer → v.isObj) (hname : Pointer.isIndexToken name = false)
    (hroot : (p ++ [Slot.member name]).map Slot.token ≠ [""])
    (hkind : ∀ w, v.atSlot? (.member name) = some w → w.isContainer → (Json.emptyContainer b).kind = w.kind)
    (hnone : result.follow? (p ++ [.member name]) = none) :
    Shaped data (result.put (Pointer.child (Pointer.ofPath p) name) (Json.emptyContainer b)) ∧
      ∀ q u, u.isLeaf →
        ((result.put (Pointer.child (Pointer.ofPath p) name) (Json.emptyContainer b)).follow? q = some u ↔
          result.follow? q = some u) := by
  have ha := hs.admits hp
  rw [← Pointer.ofPath_concat, Pointer.ofPath, put_compile hroot]
  by_cases ho : Slot.Open (.member name) ((result.follow? p).getD .null)
  case pos =>
    have ha' := ha.append (s := [.member name]) ⟨ho, trivial⟩
    rw [Json.setTokens_path (plain_concat hr hp hname) ha']
    refine ⟨hs.amend ha' distinct_emptyContainer (fun _ => atSlot?_emptyContainer) ?fits ?kind fun h => ?leaf, fun q u hl => ?same⟩
    case fits =>
      intro q slot s w he hw hc
      rcases List.eq_nil_or_concat s with rfl | ⟨s, last, rfl⟩
      case inl =>
        obtain ⟨hq, hl⟩ := List.append_inj' he rfl
        rw [← hq, hp] at hw
        rw [← Option.some.inj hw, ← (List.cons.inj hl).1]
        exact hv (Option.some.inj hw ▸ hc)
      case inr =>
        have he : p ++ [.member name] = (q ++ slot :: s) ++ [last] := by simpa using he
        exact Json.fits_of_follow? ((List.append_inj' he rfl).1 ▸ hp) hw
    case kind =>
      intro w hw hc
      rw [Json.follow?_append, hp] at hw
      exact hkind w (by simpa using hw) hc
    case leaf => simp [isLeaf_emptyContainer] at h
    case same =>
      obtain ⟨hn, hc⟩ := isLeaf_iff.mp hl
      rw [Json.follow?_amend_const ha' (fun _ => atSlot?_emptyContainer) hc hn]
      refine ⟨fun h => ?_, fun h => .inr ⟨?_, h⟩⟩
      · rcases h with ⟨-, rfl⟩ | ⟨-, h⟩
        · simp [isLeaf_emptyContainer] at hl
        · exact h
      · rintro ⟨s, rfl⟩
        rw [Json.follow?_append, hnone] at h
        contradiction
  case neg =>
    -- Something else is in the way: nothing is written.
    cases hu : result.follow? p
    case none => exact absurd (.inl (by simp [hu, Json.isNull])) ho
    case some u =>
      rw [hu, Option.getD_some] at ho
      rw [List.map_append, Json.setTokens_append (hr.plain.follow hp) ha, List.map_singleton, Slot.token,
        Json.amend_self hu (Json.setTokens_of_blocked hname ho)]
      exact ⟨hs, fun _ _ _ => Iff.rfl⟩

theorem has_of_follow? (hp : ∀ slot ∈ p, slot.Plain) (ht : p.map Slot.token ≠ [""])
    (h : result.follow? p = some u) : result.has (.text (Pointer.ofPath p)) = true := by
  have hc : (Address.text (Pointer.ofPath p)).parse? = some (p.map Slot.token) := Pointer.parse?_compile ht
  rw [Json.has, Json.get?, hc, Option.bind_some, Json.getTokens?_path hp h, Option.isSome_some]

theorem requiredContainer?_eq {generic : String} (h : requiredContainer? c generic name = some k) :
    ∃ b, k = Json.emptyContainer b := by
  unfold requiredContainer? at h
  split at h
  case h_1 => exact ⟨true, (Option.some.inj h).symm⟩
  case h_2 => exact ⟨false, (Option.some.inj h).symm⟩
  case h_3 => contradiction

theorem mem_required (hk : known? c (Pointer.ofPath p) = some o) :
    Dict.get? c.options (knownPointer c (Pointer.ofPath p)) = some o :=
  (Option.filter_eq_some_iff.mp hk).1

-- The members required of an object, and of a scalar for which the form has an object.
theorem addRequired_shaped (hr : Readable c data) (hs : Shaped data result) (hp : data.follow? p = some v)
    (hv : v.isContainer → v.isObj) (hk : known? c (Pointer.ofPath p) = some o)
    (hn : ∀ name ∈ names, name ∈ o.required) :
    let after := addRequired c (knownPointer c (Pointer.ofPath p)) (Pointer.ofPath p) names result
    Shaped data after ∧ ∀ q u, u.isLeaf → (after.follow? q = some u ↔ result.follow? q = some u) := by
  induction names generalizing result
  case nil => exact ⟨hs, fun _ _ _ => Iff.rfl⟩
  case cons name names hi =>
    obtain ⟨hname, hn⟩ := List.forall_mem_cons.mp hn
    simp only [addRequired, List.foldl_cons] at hi ⊢
    cases hc : requiredContainer? c (knownPointer c (Pointer.ofPath p)) name
    case none => exact hi hs hn
    case some k =>
      dsimp only
      split
      case isTrue => exact hi hs hn
      case isFalse h =>
        obtain ⟨b, rfl⟩ := requiredContainer?_eq hc
        have hidx := hr.required (mem_required hk) hname
        have hroot : (p ++ [Slot.member name]).map Slot.token ≠ [""] := by
          intro ht
          -- A member without a name at the root has the pointer of the root, where there is something.
          rw [← Pointer.ofPath_concat, Pointer.ofPath, ht] at h
          exact h rfl
        have hnone : result.follow? (p ++ [.member name]) = none := by
          refine Option.eq_none_iff_forall_ne_some.mpr fun u hu => h ?_
          exact Pointer.ofPath_concat ▸ has_of_follow? (plain_concat hr hp hidx) hroot hu
        obtain ⟨hs', hl⟩ := put_required hr hs hp hv hidx hroot
          (fun w hw hwc => hr.slots hp hk hname hw hwc hc) hnone
        obtain ⟨hs'', hl'⟩ := hi hs' hn
        exact ⟨hs'', fun q u hu => (hl' q u hu).trans (hl q u hu)⟩

theorem isContainer_of_typed? (h : typed? o fixErrors v = some x) : x.isContainer = false := by
  have h := (Option.ite_none_right_eq_some.mp h).2
  split at h
  case isTrue => exact Json.isContainer_of_repair? h
  case isFalse => exact Json.isContainer_of_coerce? h

theorem convert?_eq {declared : Json} : convert? ⟨false, fixErrors⟩ declared v =
    if fixErrors then v.repair? declared else v.coerce? declared true := by
  cases fixErrors <;> simp [convert?] <;> split <;> simp_all

-- What is written at a scalar is what its place asks for; nothing else is touched.
theorem writeTyped_scalar (fixErrors : Bool) (hr : Readable c data) (hs : Shaped data result) (hp : data.follow? p = some v)
    (hv : v.isContainer = false) (hk : known? c (Pointer.ofPath p) = some o) :
    let after := writeTyped c ⟨false, fixErrors⟩ (knownPointer c (Pointer.ofPath p)) (Pointer.ofPath p) o v result
    Shaped data after ∧ SameOff p result after ∧ (∀ x, typed? o fixErrors v = some x → after.follow? p = some x) ∧
      (typed? o fixErrors v = none → ∀ u, u.isLeaf → after.follow? p = some u → result.follow? p = some u) := by
  simp only [writeTyped, Bool.or_false, Bool.not_false, Bool.and_true]
  split
  case isTrue ht =>
    obtain ⟨hs', hself, hoff⟩ := put_scalar (x := .null) hr hs hp hv rfl
    have hn : typed? o fixErrors v = none := by simp [typed?, ht, isScalarType]
    refine ⟨hs', hoff, by simp [hn], fun _ u hl hu => ?_⟩
    rw [hself] at hu
    exact absurd hl (Option.some.inj hu ▸ by simp [Json.isLeaf, Json.isNull])
  case isFalse =>
    split
    case isTrue ht =>
      have he : typed? o fixErrors v = convert? ⟨false, fixErrors⟩ (o.schemaType.getD .null) v := by
        rw [typed?, if_pos ht, convert?_eq]
      rw [← he]
      cases hx : typed? o fixErrors v
      case none => exact ⟨hs, fun _ _ _ _ => Iff.rfl, by simp, fun _ _ _ hu => hu⟩
      case some x =>
        obtain ⟨hs', hself, hoff⟩ := put_scalar hr hs hp hv (isContainer_of_typed? hx)
        exact ⟨hs', hoff, fun y hy => Option.some.inj hy ▸ hself, by simp⟩
    case isFalse ht =>
      have hn : typed? o fixErrors v = none := by rw [typed?, if_neg ht]
      split
      case isTrue =>
        obtain ⟨hs', hl⟩ := addRequired_shaped hr hs hp (by simp [hv]) hk (fun _ hm => hm)
        exact ⟨hs', fun q u _ => hl q u, by simp [hn], fun _ u hu => (hl p u hu).mp⟩
      case isFalse => exact ⟨hs, fun _ _ _ _ => Iff.rfl, by simp [hn], fun _ _ _ hu => hu⟩

theorem writeDateTime_eq : writeDateTime ⟨b, fixErrors⟩ pointer o v result =
    match dateTime? o fixErrors v with
    | some x => result.put pointer x
    | none => result := by
  simp only [writeDateTime, dateTime?]
  split
  case isTrue => cases v.string?.bind (DateTime.complete? · fixErrors) <;> rfl
  case isFalse => rfl

theorem write_scalar (fixErrors : Bool) (hr : Readable c data) (hs : Shaped data result) (hp : data.follow? p = some v)
    (hv : v.isContainer = false) :
    let after := write c ⟨false, fixErrors⟩ (Pointer.ofPath p) v result
    Shaped data after ∧ SameOff p result after ∧
      (∀ x, leafValue? c fixErrors (Pointer.ofPath p) v = some x → after.follow? p = some x) ∧
      (leafValue? c fixErrors (Pointer.ofPath p) v = none →
        ∀ u, u.isLeaf → after.follow? p = some u → result.follow? p = some u) := by
  simp only [write, Bool.false_and, Bool.false_eq_true, if_false]
  cases hk : known? c (Pointer.ofPath p)
  case none =>
    rw [known?] at hk
    rw [hk]
    exact ⟨hs, fun _ _ _ _ => Iff.rfl, by simp [leafValue?, known?, hk], fun _ _ _ hu => hu⟩
  case some o =>
    have hk' := hk
    rw [known?] at hk'
    rw [hk']
    have ⟨hs', hoff, hself, hnone⟩ := writeTyped_scalar fixErrors hr hs hp hv hk
    simp only [writeDateTime_eq, leafValue?, hk, Option.bind_some]
    cases hd : dateTime? o fixErrors v
    case none => exact ⟨hs', hoff, by simpa using hself, by simpa using hnone⟩
    case some x =>
      have hx : x.isContainer = false := by
        have ⟨_, _, hx⟩ := Option.map_eq_some_iff.mp (Option.ite_none_right_eq_some.mp hd).2
        exact hx ▸ rfl
      have ⟨hs'', hself', hoff'⟩ := put_scalar hr hs' hp hv hx
      refine ⟨hs'', fun q u hq hu => (hoff' q u hq hu).trans (hoff q u hq hu), fun y hy => ?_, by simp⟩
      exact Option.some.inj hy ▸ hself'

-- At an array or object nothing is written but the members required of it.
theorem write_container (fixErrors : Bool) (hr : Readable c data) (hs : Shaped data result) (hp : data.follow? p = some v)
    (hv : v.isContainer) :
    let after := write c ⟨false, fixErrors⟩ (Pointer.ofPath p) v result
    Shaped data after ∧ ∀ q u, u.isLeaf → (after.follow? q = some u ↔ result.follow? q = some u) := by
  simp only [write, Bool.false_and, Bool.false_eq_true, if_false]
  cases hk : known? c (Pointer.ofPath p)
  case none =>
    rw [known?] at hk
    rw [hk]
    exact ⟨hs, fun _ _ _ => Iff.rfl⟩
  case some o =>
    have hk' := hk
    rw [known?] at hk'
    rw [hk']
    have ht := hr.kind hp hv hk
    have hd : dateTime? o fixErrors v = none := by cases v <;> simp_all [dateTime?, Json.string?, Json.isContainer]
    simp only [writeDateTime_eq, hd]
    cases v
    case arr items =>
      have hw : writeTyped c ⟨false, fixErrors⟩ (knownPointer c (Pointer.ofPath p)) (Pointer.ofPath p) o
          (.arr items) result = result := by
        simp [writeTyped, ht, Json.kind, isScalarType]
      exact hw.symm ▸ ⟨hs, fun _ _ _ => Iff.rfl⟩
    case obj members =>
      have hw : writeTyped c ⟨false, fixErrors⟩ (knownPointer c (Pointer.ofPath p)) (Pointer.ofPath p) o
          (.obj members) result =
          addRequired c (knownPointer c (Pointer.ofPath p)) (Pointer.ofPath p) o.required result := by
        simp [writeTyped, ht, Json.kind, isScalarType]
      exact hw.symm ▸ addRequired_shaped hr hs hp (fun _ => rfl) hk (fun _ hm => hm)
    all_goals contradiction

-- A result in which every scalar is what the scalar of the data in its place becomes.
structure Sound (c : Context) (fixErrors : Bool) (data result : Json) : Prop extends Shaped data result where
  value : ∀ {p u}, result.follow? p = some u → u.isLeaf →
    ∃ v, data.follow? p = some v ∧ v.isContainer = false ∧ leafValue? c fixErrors (Pointer.ofPath p) v = some u

theorem Sound.write (hr : Readable c data) (hs : Sound c fixErrors data result) (hp : data.follow? p = some v) :
    Sound c fixErrors data (write c ⟨false, fixErrors⟩ (Pointer.ofPath p) v result) := by
  cases hv : v.isContainer
  case true =>
    have ⟨hs', hl⟩ := write_container fixErrors hr hs.toShaped hp hv
    exact ⟨hs', fun hu hl' => hs.value ((hl _ _ hl').mp hu) hl'⟩
  case false =>
    have ⟨hs', hoff, hself, hnone⟩ := write_scalar fixErrors hr hs.toShaped hp hv
    refine ⟨hs', fun {q u} hu hl => ?_⟩
    by_cases hq : q = p
    case neg => exact hs.value ((hoff q u hq hl).mp hu) hl
    case pos =>
      subst hq
      cases hx : leafValue? c fixErrors (Pointer.ofPath q) v
      case none => exact hs.value (hnone hx u hl hu) hl
      case some x =>
        rw [hself x hx] at hu
        exact ⟨v, hp, hv, by rw [hx, hu]⟩

-- A scalar that has been written stays, also where it is written once more.
theorem Sound.follow?_write (hr : Readable c data) (hs : Sound c fixErrors data result)
    (hp : data.follow? p = some v) (hu : result.follow? q = some u) (hl : u.isLeaf) :
    (FormData.write c ⟨false, fixErrors⟩ (Pointer.ofPath p) v result).follow? q = some u := by
  cases hv : v.isContainer
  case true => exact (write_container fixErrors hr hs.toShaped hp hv).2 q u hl |>.mpr hu
  case false =>
    have ⟨_, hoff, hself, _⟩ := write_scalar fixErrors hr hs.toShaped hp hv
    by_cases hq : q = p
    case neg => exact (hoff q u hq hl).mpr hu
    case pos =>
      subst hq
      have ⟨w, hw, _, hx⟩ := hs.value hu hl
      rw [hp] at hw
      exact hself u (Option.some.inj hw ▸ hx)

-- The writes for some of the nodes of the data, one after the other.
def writeAll (c : Context) (fixErrors : Bool) (nodes : List (String × Json)) (result : Json) : Json :=
  nodes.foldl (fun result e => FormData.write c ⟨false, fixErrors⟩ e.1 e.2 result) result

theorem Sound.follow?_writeAll {nodes : List (String × Json)} (hr : Readable c data)
    (hs : Sound c fixErrors data result) (hn : ∀ e ∈ nodes, ∃ p, data.follow? p = some e.2 ∧ e.1 = Pointer.ofPath p) :
    Sound c fixErrors data (writeAll c fixErrors nodes result) ∧ ∀ q u, u.isLeaf →
      result.follow? q = some u ∨ (∃ v, (Pointer.ofPath q, v) ∈ nodes ∧ data.follow? q = some v ∧
        v.isContainer = false ∧ leafValue? c fixErrors (Pointer.ofPath q) v = some u) →
      (writeAll c fixErrors nodes result).follow? q = some u := by
  induction nodes generalizing result
  case nil => exact ⟨hs, fun q u _ h => by simpa [writeAll] using h⟩
  case cons e nodes hi =>
    obtain ⟨pointer, v⟩ := e
    obtain ⟨⟨p, hp, rfl⟩, hrest⟩ := List.forall_mem_cons.mp hn
    have ⟨hs', hi⟩ := hi (hs.write hr hp) hrest
    refine ⟨hs', fun q u hl h => hi q u hl ?_⟩
    rcases h with h | ⟨w, hm, hw, hc, hx⟩
    case inl => exact .inl (hs.follow?_write hr hp h hl)
    case inr =>
      rcases List.mem_cons.mp hm with hm | hm
      case inr => exact .inr ⟨w, hm, hw, hc, hx⟩
      case inl =>
        have ⟨hq, hwv⟩ := Prod.mk.inj hm
        have ⟨_, _, hself, _⟩ := write_scalar fixErrors hr hs.toShaped hw hc
        exact .inl (by simpa [hq, hwv] using hself u hx)

theorem Sound.emptyContainer (fixErrors : Bool) (hr : Readable c data) :
    Sound c fixErrors data (Json.emptyContainer data.isArr) := by
  refine ⟨⟨distinct_emptyContainer, ?kind, ?leaf⟩, ?value⟩
  case kind =>
    intro p u w hu hw _
    cases p
    case nil =>
      rw [← Option.some.inj hu, ← Option.some.inj hw]
      exact .inr (kind_emptyContainer hr.container)
    case cons => simp [atSlot?_emptyContainer] at hu
  all_goals
    intro p u hu hl
    cases p
    case nil => simp [← Option.some.inj hu, isLeaf_emptyContainer] at hl
    case cons => simp [atSlot?_emptyContainer] at hu

-- The scalars of the result that say something are what the scalars of the data become, each at its own
-- place, and there are no others.
theorem format_leaves (hr : Readable c data) :
    (format c ⟨false, fixErrors⟩ data).Distinct ∧ ∀ path u, u.isLeaf →
      ((format c ⟨false, fixErrors⟩ data).follow? path = some u ↔
        ∃ v, data.follow? path = some v ∧ v.isContainer = false ∧
          leafValue? c fixErrors (Pointer.ofPath path) v = some u) := by
  have hn : ∀ e ∈ data.nodes false, ∃ p, data.follow? p = some e.2 ∧ e.1 = Pointer.ofPath p :=
    fun _ he => (Json.mem_nodes_iff false hr.distinct).mp he
  have ⟨hs, hall⟩ := (Sound.emptyContainer fixErrors hr).follow?_writeAll hr hn
  have hf : format c ⟨false, fixErrors⟩ data =
      writeAll c fixErrors (data.nodes false) (Json.emptyContainer data.isArr) := by
    rw [format, if_pos hr.container, writeAll]
  rw [hf]
  refine ⟨hs.distinct, fun p u hl => ⟨fun h => hs.value h hl, fun ⟨v, hv, hc, hx⟩ => ?_⟩⟩
  exact hall p u hl (.inr ⟨v, (Json.mem_nodes_iff false hr.distinct).mpr ⟨p, hv, rfl⟩, hv, hc, hx⟩)

-- What is known of a form with a name, tags and an author.
def bookContext : Context where
  options := [
    ("", { NodeOptions.empty with schemaType := some "object", required := ["tags", "author"] }),
    ("/title", { NodeOptions.empty with schemaType := some "string" }),
    ("/tags", { NodeOptions.empty with schemaType := some "array" }),
    ("/tags/-", { NodeOptions.empty with schemaType := some "string" }),
    ("/author", { NodeOptions.empty with schemaType := some "object" })]
  library := []
  schemaRefs := []
  dataRefs := []
  arrays := [("/tags", 0)]

-- What has been entered into it.
def bookData : Json := .obj [("title", ""), ("tags", .arr [.null, .bool true, "b"])]

theorem distinct_book : bookData.Distinct := by
  simp [bookData, Json.Distinct, Json.DistinctMembers, Json.DistinctItems, Dict.keys]

-- The arrays and objects in it.
theorem book_containers (hp : bookData.follow? p = some v) (hv : v.isContainer) :
    Pointer.ofPath p = "" ∧ v = bookData ∨ Pointer.ofPath p = "/tags" ∧ v = .arr [.null, .bool true, "b"] := by
  have hm := (Json.mem_nodes_iff false distinct_book).mpr ⟨p, hp, rfl⟩
  have hn : bookData.nodes false = [("", bookData), ("/title", ""), ("/tags", .arr [.null, .bool true, "b"]),
    ("/tags/0", .null), ("/tags/1", .bool true), ("/tags/2", "b")] := rfl
  rw [hn] at hm
  simp only [List.mem_cons, Prod.mk.injEq, List.not_mem_nil, or_false] at hm
  rcases hm with h | h | h | h | h | h
  case inl => exact .inl h
  case inr.inr.inl => exact .inr h
  all_goals rw [h.2] at hv; contradiction

theorem readable_book : Readable bookContext bookData where
  container := rfl
  distinct := distinct_book
  plain := by simp [bookData, Json.Plain, Json.PlainMembers, Json.PlainItems, Pointer.isIndexToken, Pointer.index?]
  named := rfl
  kind {p v o} hp hv hk := by
    rcases book_containers hp hv with ⟨he, rfl⟩ | ⟨he, rfl⟩
    all_goals
      rw [he] at hk
      exact Option.some.inj hk ▸ rfl
  required {pointer o name} ho hn := by
    have hm := Dict.mem_of_get? ho
    simp only [bookContext, List.mem_cons, Prod.mk.injEq, List.not_mem_nil, or_false] at hm
    rcases hm with h | h | h | h | h
    all_goals
      rw [h.2] at hn
      simp [NodeOptions.empty] at hn
    rcases hn with rfl | rfl <;> decide
  slots {p v o name w k} hp hk hn hw hc hr := by
    have hv := Json.isContainer_of_fits (Json.fits_of_atSlot? hw)
    rcases book_containers hp hv with ⟨he, rfl⟩ | ⟨he, rfl⟩
    case inr => contradiction
    case inl =>
      rw [he] at hr
      by_cases ht : name = "tags"
      case pos =>
        subst ht
        rw [← Option.some.inj hr, ← Option.some.inj hw]
        rfl
      case neg =>
        have ht' : ¬"tags" = name := fun h => ht h.symm
        simp only [bookData, Json.atSlot?, Dict.get?, ht', if_false] at hw
        split at hw
        case isTrue => exact absurd hc (Option.some.inj hw ▸ by decide)
        case isFalse => contradiction

theorem format_leaves_book : Readable bookContext bookData ∧
    (format bookContext ⟨false, false⟩ bookData).follow? [.member "tags", .item 2] = some "b" :=
  ⟨readable_book, ((format_leaves readable_book).2 [.member "tags", .item 2] "b" rfl).mpr ⟨"b", rfl, rfl, rfl⟩⟩

end FormData

end FormModel
