import FormModel.Proofs.Dict
import FormModel.Proofs.Json.Walk
import FormModel.Proofs.Pointer.Write

/-!
A value is grown again from its scalars.  The writes of the scalars below one place are a write to this place of what the
same writes make below it; so item by item and member by member what is there already stays, and the next one is put behind
it.
-/

namespace FormModel

namespace Json

variable {j u v x : Json} {p : Path} {e : Path × Json} {es : List (Path × Json)} {slot : Slot}

/-- The value with another one written at a pointer, if it arrives there. -/
def put? (root : Json) (pointer : String) (value : Json) : Option Json :=
  let (arrived, root) := root.set (.text pointer) value false
  if arrived then some root else none

-- Whether a value is shown by its scalars: no array or object is empty, and no object looks like an array by the name of
-- its first member.
structure Filled (v : Json) : Prop where
  nonempty : ∀ isArray, emptyContainer isArray ∉ v.parts
  firstName : ∀ name u rest, .obj ((name, u) :: rest) ∈ v.parts → Pointer.isIndexToken name = false

def atScalar (e : Path × Json) : Bool := !e.2.isContainer

-- The scalars in a value, each with the path to it.
def scalars (j : Json) : List (Path × Json) := j.places.filter atScalar

-- A value written at the end of a path, if it arrives there.
def grow? (j : Json) (e : Path × Json) : Option Json :=
  let (arrived, j) := j.setTokens (e.1.map Slot.token) e.2 false
  if arrived then some j else none

theorem put?_ofPath (h : p ≠ [.member ""]) : j.put? (Pointer.ofPath p) x = j.grow? (p, x) := by
  have ht : p.map Slot.token ≠ [""] := fun ht => h (Pointer.eq_of_ofPath_eq_slash (by rw [Pointer.ofPath, ht]; rfl))
  have hp : (Address.text (Pointer.ofPath p)).parse? = some (p.map Slot.token) := Pointer.parse?_compile ht
  rw [put?, set, hp]
  rfl

theorem grow?_inside (h : slot.Taken j) :
    j.grow? (inside slot e) = (((j.atSlot? slot).getD .null).grow? e).map (j.putSlot slot) := by
  rw [grow?, grow?, inside, List.map_cons, setTokens_token h]
  generalize ((j.atSlot? slot).getD .null).setTokens _ _ _ = r
  obtain ⟨_ | _, _⟩ := r <;> rfl

theorem putSlot_putSlot (h : slot.Open j) : (j.putSlot slot u).putSlot slot v = j.putSlot slot v := by
  cases slot <;> cases j <;> simp only [Slot.Open, Slot.fits, isNull, isArr, isObj, Bool.false_eq_true, or_self] at h
  case item.arr | item.null => simp [putSlot, isNull, emptyContainer, Slot.isItem, padTo_eq_self, length_padTo]
  case member.obj | member.null => simp [putSlot, isNull, emptyContainer, Slot.isItem, Dict.insert_insert]

theorem taken_putSlot (h : slot.Taken j) : slot.Taken (j.putSlot slot u) :=
  .inr ⟨fits_putSlot h.open, h.elim (·.2.bounded) (·.2)⟩

-- Growing what is below a place and putting it there is growing it there.
theorem foldlM_inside (h : slot.Taken j) (hn : es ≠ []) : (es.map (inside slot)).foldlM grow? j =
    (es.foldlM grow? ((j.atSlot? slot).getD .null)).map (j.putSlot slot) := by
  induction es generalizing j
  case nil => contradiction
  case cons e es hi =>
    rw [List.map_cons, List.foldlM_cons, List.foldlM_cons, grow?_inside h]
    cases hg : ((j.atSlot? slot).getD .null).grow? e
    case none => rfl
    case some u =>
      simp only [Option.map_some, Option.bind_eq_bind, Option.bind_some]
      by_cases he : es = []
      case pos => subst he; rfl
      case neg =>
        rw [hi (taken_putSlot h) he, atSlot?_putSlot_self h.open, Option.getD_some]
        exact congrArg (Option.map · _) (funext fun v => putSlot_putSlot h.open)

-- Whether a value has scalars in it and grows from them where nothing is.
def Grows (j : Json) : Prop := j.scalars ≠ [] ∧ j.scalars.foldlM grow? .null = some j

theorem Grows.at (hu : u.Grows) (h : slot.Taken j) (hn : j.atSlot? slot = none) :
    (u.scalars.map (inside slot)).foldlM grow? j = some (j.putSlot slot u) := by
  rw [foldlM_inside h hu.1, hn, Option.getD_none, hu.2, Option.map_some]

theorem filter_placesOfItems {i : Nat} {rest : List Json} : (placesOfItems i (u :: rest)).filter atScalar =
    u.scalars.map (inside (.item i)) ++ (placesOfItems (i + 1) rest).filter atScalar := by
  rw [placesOfItems, List.filter_append, List.filter_map]
  rfl

theorem filter_placesOfMembers {name : String} {rest : List (String × Json)} :
    (placesOfMembers ((name, u) :: rest)).filter atScalar =
      u.scalars.map (inside (.member name)) ++ (placesOfMembers rest).filter atScalar := by
  rw [placesOfMembers, List.filter_append, List.filter_map]
  rfl

theorem putSlot_concat {done : List Json} : (Json.arr done).putSlot (.item done.length) u = .arr (done ++ [u]) := by
  simp [putSlot, isNull, padTo]

theorem grow_items (done : List Json) {rest : List Json} (hg : ∀ u ∈ rest, u.Grows) (hl : (done ++ rest).length ≤ 2 ^ 64) :
    ((placesOfItems done.length rest).filter atScalar).foldlM grow? (.arr done) = some (.arr (done ++ rest)) := by
  induction rest generalizing done
  case nil => simp [placesOfItems]
  case cons u rest hi =>
    have ⟨hu, hg⟩ := List.forall_mem_cons.mp hg
    have ht : (Slot.item done.length).Taken (.arr done) := .inr ⟨rfl, by
      simp only [List.length_append, List.length_cons] at hl
      simp only [Slot.Bounded]
      omega⟩
    rw [List.append_cons] at hl ⊢
    have hi := hi _ hg hl
    rw [List.length_append, List.length_singleton] at hi
    rw [filter_placesOfItems, List.foldlM_append, hu.at ht (by simp [atSlot?]), putSlot_concat]
    exact hi

theorem grow_members (done : List (String × Json)) {rest : List (String × Json)} (hg : ∀ e ∈ rest, e.2.Grows)
    (hk : (Dict.keys (done ++ rest)).Nodup) :
    ((placesOfMembers rest).filter atScalar).foldlM grow? (.obj done) = some (.obj (done ++ rest)) := by
  induction rest generalizing done
  case nil => simp [placesOfMembers]
  case cons e rest hi =>
    have ⟨he, hg⟩ := List.forall_mem_cons.mp hg
    have hnew := Dict.not_has_of_nodup_append hk
    have ht : (Slot.member e.1).Taken (.obj done) := .inr ⟨rfl, trivial⟩
    have hput : (Json.obj done).putSlot (.member e.1) e.2 = .obj (done ++ [e]) :=
      congrArg Json.obj (Dict.insert_of_not_has hnew)
    have hnone : (Json.obj done).atSlot? (.member e.1) = none := Dict.get?_eq_none.mpr (Dict.has_eq_false.mp hnew)
    rw [List.append_cons] at hk ⊢
    rw [filter_placesOfMembers, List.foldlM_append, he.at ht hnone, hput]
    exact hi _ hg hk

theorem Filled.atSlot (h : j.Filled) (hu : j.atSlot? slot = some u) : u.Filled where
  nonempty isArray hm := h.nonempty isArray (mem_parts_of_atSlot? hu hm)
  firstName name w rest hm := h.firstName name w rest (mem_parts_of_atSlot? hu hm)

theorem grows_arr {items : List Json} (hn : items ≠ []) (hg : ∀ u ∈ items, u.Grows) (hl : items.length ≤ 2 ^ 64) :
    (Json.arr items).Grows := by
  obtain ⟨u, rest, rfl⟩ := List.exists_cons_of_ne_nil hn
  have ⟨hu, hg⟩ := List.forall_mem_cons.mp hg
  have hscalars : (Json.arr (u :: rest)).scalars = u.scalars.map (inside (.item 0)) ++ (placesOfItems 1 rest).filter atScalar :=
    filter_placesOfItems
  have ht : (Slot.item 0).Taken .null := .inl ⟨rfl, by simp [Slot.Plain]⟩
  rw [Grows, hscalars, List.foldlM_append, hu.at ht rfl]
  exact ⟨by simp [hu.1], grow_items [u] hg hl⟩

theorem grows_obj {members : List (String × Json)} (hn : members ≠ []) (hg : ∀ e ∈ members, e.2.Grows)
    (hfirst : ∀ name u rest, members = (name, u) :: rest → Pointer.isIndexToken name = false)
    (hk : (Dict.keys members).Nodup) : (Json.obj members).Grows := by
  obtain ⟨⟨name, u⟩, rest, rfl⟩ := List.exists_cons_of_ne_nil hn
  have ⟨hu, hg⟩ := List.forall_mem_cons.mp hg
  have hscalars : (Json.obj ((name, u) :: rest)).scalars =
      u.scalars.map (inside (.member name)) ++ (placesOfMembers rest).filter atScalar := filter_placesOfMembers
  have ht : (Slot.member name).Taken .null := .inl ⟨rfl, hfirst name u rest rfl⟩
  rw [Grows, hscalars, List.foldlM_append, hu.at ht rfl]
  exact ⟨by simp [hu.1], grow_members [(name, u)] hg hk⟩

theorem grows (hd : j.Distinct) (hs : j.Short) (hf : j.Filled) : j.Grows := by
  induction j using inductionInside
  case scalar j hj => cases j <;> first | contradiction | exact ⟨by simp [scalars, places, atScalar, isContainer], rfl⟩
  case arr items hi =>
    refine grows_arr (fun hn => hf.nonempty true (hn ▸ mem_parts_self)) (fun u hu => ?_) (hs items mem_parts_self)
    obtain ⟨i, hu'⟩ := List.mem_iff_getElem?.mp hu
    have hat : (Json.arr items).atSlot? (.item i) = some u := hu'
    exact hi u hu (hd.atSlot hat) (hs.atSlot hat).2 (hf.atSlot hat)
  case obj members hi =>
    refine grows_obj (fun hn => hf.nonempty false (hn ▸ mem_parts_self)) (fun e he => ?_)
      (fun name u rest hm => hf.firstName name u rest (hm ▸ mem_parts_self)) hd.1
    have hat : (Json.obj members).atSlot? (.member e.1) = some e.2 := Dict.get?_of_mem hd.1 he
    exact hi e he (hd.atSlot hat) (hs.atSlot hat).2 (hf.atSlot hat)

theorem dict_eq_scalars (hd : j.Distinct) : j.dict = j.scalars.map fun e => (Pointer.ofPath e.1, e.2) := by
  have hk : (Dict.keys ((j.nodes false).filter fun e => !e.2.isContainer)).Nodup :=
    (nodup_pointers hd).sublist (List.filter_sublist.map _)
  rw [dict, Dict.ofList_eq_self hk, nodes_eq_places, List.filter_map]
  rfl

/-- Where no array or object is empty, no object starts with a name that looks like a position, and the root has no member
without a name, writing all scalars under their pointers, one after the other and into nothing, gives the value again. -/
theorem foldlM_put?_dict (hd : v.Distinct) (hs : v.Short) (hf : v.Filled) (hn : v.member? "" = none) :
    v.dict.foldlM (fun root e => root.put? e.1 e.2) .null = some v := by
  have hput : ∀ root : Json, ∀ e ∈ v.scalars, root.put? (Pointer.ofPath e.1) e.2 = root.grow? e := by
    intro root e he
    refine put?_ofPath fun hp => ?_
    have hv := (mem_places_iff v hd).mp (List.mem_of_mem_filter he)
    rw [hp, follow?_cons, ← member?_eq_atSlot?, hn] at hv
    contradiction
  rw [← (grows hd hs hf).2, dict_eq_scalars hd, List.foldlM_map, List.foldlM_eq_foldl, List.foldlM_eq_foldl]
  exact List.foldl_ext _ _ _ fun grown e he => congrArg (grown >>= ·) (funext fun root => hput root e he)

-- A `null` that comes before what is put behind it, and names like positions, which do not come first.
def mixedScalars : Json :=
  .obj [("a/b", .arr [.null, .arr [.bool true]]), ("0", .obj [("", .null), ("-", "x")]), ("x==1", .arr [.obj [("b", .null)]])]

theorem distinct_mixedScalars : mixedScalars.Distinct := by
  simp [mixedScalars, Distinct, DistinctMembers, DistinctItems, Dict.keys]

theorem short_mixedScalars : mixedScalars.Short := fun items h => by
  simp [mixedScalars, parts, partsOfMembers, partsOfItems] at h
  rcases h with rfl | rfl | rfl <;> simp

theorem filled_mixedScalars : mixedScalars.Filled where
  nonempty isArray := by cases isArray <;> simp [mixedScalars, parts, partsOfMembers, partsOfItems, emptyContainer]
  firstName name u rest h := by
    simp only [mixedScalars, parts, partsOfMembers, partsOfItems, List.append_nil, List.cons_append, List.nil_append,
      List.mem_cons, List.not_mem_nil, obj.injEq, List.cons.injEq, Prod.mk.injEq, reduceCtorEq, or_false, false_or] at h
    rcases h with ⟨⟨rfl, -⟩, -⟩ | ⟨⟨rfl, -⟩, -⟩ | ⟨⟨rfl, -⟩, -⟩ <;> decide

theorem foldlM_put?_dict_mixedScalars : mixedScalars.Distinct ∧ mixedScalars.Short ∧ mixedScalars.Filled ∧
    mixedScalars.member? "" = none ∧
      mixedScalars.dict.foldlM (fun root e => root.put? e.1 e.2) .null = some mixedScalars :=
  ⟨distinct_mixedScalars, short_mixedScalars, filled_mixedScalars, rfl,
    foldlM_put?_dict distinct_mixedScalars short_mixedScalars filled_mixedScalars rfl⟩

end Json

end FormModel
