import FormModel.Merge
import FormModel.Proofs.Json.Parts
import FormModel.Proofs.Pointer.Path

/-!
Merging the same value twice is merging it once.  A value settles on what it has been merged over: merged over
that again it changes nothing.  The members and items of a value settle one by one, and an object that is spread
over arrays settles on each of the objects that the arrays hold then.  Empty values settle on everything.
-/

namespace FormModel

namespace Json

variable {value earlier later b e : Json} {members before : Dict Json} {items slots : List Json} {key : String}
  {f : Json → Json}

/-! ### Spreading -/

theorem spread_arr (h : items ≠ []) : spread f (.arr items) = .arr (spreadItems f items) := by
  rw [spread, if_neg (mt List.isEmpty_iff.mp h)]

theorem spreadItems_ne_nil (h : items ≠ []) : spreadItems f items ≠ [] := by
  cases items
  case nil => contradiction
  case cons => exact List.cons_ne_nil _ _

-- What `f` gives is no array, so it is found in the same places again.
mutual
theorem spread_spread (hf : ∀ j, spread f (f j) = f j) : (j : Json) → spread f (spread f j) = spread f j
  | .arr [] => hf _
  | .arr (j :: rest) => by
    rw [spread_arr (List.cons_ne_nil _ _), spread_arr (spreadItems_ne_nil (List.cons_ne_nil _ _)),
      spreadItems_spreadItems hf]
  | .null | .bool _ | .num _ | .str _ | .obj _ => hf _

theorem spreadItems_spreadItems (hf : ∀ j, spread f (f j) = f j) :
    (items : List Json) → spreadItems f (spreadItems f items) = spreadItems f items
  | [] => rfl
  | j :: rest => congrArg₂ List.cons (spread_spread hf j) (spreadItems_spreadItems hf rest)
end

/-! ### What a value settles on -/

-- Once merged over anything, merging the value again changes nothing.
def Settles (later : Json) : Prop := ∀ earlier, mergeOver later (mergeOver later earlier) = mergeOver later earlier

theorem mergeOver_of_isEmpty (h : e.isEmpty) : mergeOver e earlier = earlier := by
  cases e <;> first | contradiction | rfl | exact if_pos h

theorem mergeOver_null (h : later.isEmpty = false) : mergeOver later .null = later := by
  cases later <;> first | contradiction | rfl | exact if_neg (Bool.eq_false_iff.mp h)

theorem mergeOver_scalar (hc : later.isContainer = false) (h : later.isEmpty = false) :
    mergeOver later earlier = later := by
  cases later <;> first | contradiction | rfl | exact if_neg (Bool.eq_false_iff.mp h)

-- A value that is not empty is what it makes of `null`.
theorem Settles.self (h : later.Settles) : mergeOver later later = later := by
  cases he : later.isEmpty
  case true => exact mergeOver_of_isEmpty he
  case false =>
    have hs := h .null
    rwa [mergeOver_null he] at hs

theorem settles_of_isContainer (h : later.isContainer = false) : later.Settles := by
  intro earlier
  cases he : later.isEmpty
  case true => simp only [mergeOver_of_isEmpty he]
  case false => simp only [mergeOver_scalar h he]

/-! ### Members -/

theorem mergeMembers_cons {e : String × Json} : mergeMembers (e :: members) before =
    mergeMembers members (before.insert e.1 (match before.get? e.1 with
      | some previous => mergeOver e.2 previous
      | none => e.2)) := rfl

theorem get?_mergeMembers_of_not_mem (h : key ∉ Dict.keys members) :
    (mergeMembers members before).get? key = before.get? key := by
  induction members generalizing before
  case nil => rfl
  case cons e rest hi =>
    obtain ⟨k, value⟩ := e
    have ⟨hk, h⟩ := not_or.mp (mt List.mem_cons.mpr h)
    rw [mergeMembers_cons, hi h, Dict.get?_insert, if_neg (Ne.symm hk)]

-- Each member has been merged into what is under its key.
theorem get?_mergeMembers (before : Dict Json) (hk : (Dict.keys members).Nodup) (hs : ∀ e ∈ members, e.2.Settles)
    (h : (key, value) ∈ members) :
    ∃ merged, (mergeMembers members before).get? key = some merged ∧ mergeOver value merged = merged := by
  induction members generalizing before
  case nil => contradiction
  case cons e rest hi =>
    obtain ⟨k, v⟩ := e
    have ⟨hkey, hk⟩ := List.nodup_cons.mp hk
    have ⟨hv, hs⟩ := List.forall_mem_cons.mp hs
    rw [mergeMembers_cons]
    cases h
    case head =>
      rw [get?_mergeMembers_of_not_mem hkey, Dict.get?_insert, if_pos rfl]
      refine ⟨_, rfl, ?_⟩
      cases before.get? key
      case none => exact hv.self
      case some previous => exact hv previous
    case tail h => exact hi _ hk hs h

theorem mergeMembers_of_settled
    (h : ∀ e ∈ members, ∃ merged, before.get? e.1 = some merged ∧ mergeOver e.2 merged = merged) :
    mergeMembers members before = before := by
  induction members
  case nil => rfl
  case cons e rest hi =>
    have ⟨⟨merged, hget, hmerged⟩, h⟩ := List.forall_mem_cons.mp h
    simp only [mergeMembers_cons, hget, hmerged, Dict.insert_get? hget]
    exact hi h

theorem mergeMembers_mergeMembers (hk : (Dict.keys members).Nodup) (hs : ∀ e ∈ members, e.2.Settles) :
    mergeMembers members (mergeMembers members before) = mergeMembers members before :=
  mergeMembers_of_settled fun _ he => get?_mergeMembers before hk hs he

theorem mergeMembers_self (hk : (Dict.keys members).Nodup) (hs : ∀ e ∈ members, e.2.Settles) :
    mergeMembers members members = members :=
  mergeMembers_of_settled fun e he => ⟨e.2, Dict.get?_of_mem hk he, (hs e he).self⟩

theorem mergeMembers_ne_nil (h : members ≠ []) (hk : (Dict.keys members).Nodup)
    (hs : ∀ e ∈ members, e.2.Settles) : mergeMembers members before ≠ [] := by
  have ⟨_, he⟩ := List.exists_mem_of_ne_nil _ h
  have ⟨_, hget, _⟩ := get?_mergeMembers before hk hs he
  exact List.ne_nil_of_mem (Dict.mem_of_get? hget)

-- What an object makes of a value that is no array, or an empty one.
def overlay (members : Dict Json) : Json → Json
  | .obj before => if before.isEmpty then .obj members else .obj (mergeMembers members before)
  | _ => .obj members

theorem mergeOver_obj (h : members ≠ []) : mergeOver (.obj members) earlier = spread (overlay members) earlier :=
  if_neg (mt List.isEmpty_iff.mp h)

theorem overlay_obj (h : before ≠ []) : overlay members (.obj before) = .obj (mergeMembers members before) :=
  if_neg (mt List.isEmpty_iff.mp h)

theorem overlay_overlay (h : members ≠ []) (hk : (Dict.keys members).Nodup)
    (hs : ∀ e ∈ members, e.2.Settles) (j : Json) : spread (overlay members) (overlay members j) = overlay members j := by
  have hself : overlay members (.obj members) = .obj members := by rw [overlay_obj h, mergeMembers_self hk hs]
  cases j
  case obj before =>
    by_cases hb : before = []
    case pos => exact hb ▸ hself
    case neg =>
      rw [overlay_obj hb]
      exact (overlay_obj (mergeMembers_ne_nil h hk hs)).trans (congrArg obj (mergeMembers_mergeMembers hk hs))
  all_goals exact hself

theorem settles_obj (hk : (Dict.keys members).Nodup) (hs : ∀ e ∈ members, e.2.Settles) : (obj members).Settles := by
  intro earlier
  by_cases h : members = []
  case pos => simp only [h, mergeOver_of_isEmpty (e := obj []) rfl]
  case neg => simp only [mergeOver_obj h, spread_spread (overlay_overlay h hk hs)]

/-! ### Items -/

theorem mergeSlots_cons :
    mergeSlots (later :: items) (earlier :: slots) = mergeOver later earlier :: mergeSlots items slots := rfl

theorem mergeSlots_self (hs : ∀ j ∈ items, j.Settles) : mergeSlots items items = items := by
  induction items
  case nil => rfl
  case cons j rest hi =>
    have ⟨hj, hs⟩ := List.forall_mem_cons.mp hs
    rw [mergeSlots_cons, hj.self, hi hs]

theorem mergeSlots_mergeSlots (hs : ∀ j ∈ items, j.Settles) :
    mergeSlots items (mergeSlots items slots) = mergeSlots items slots := by
  induction items generalizing slots
  case nil => rfl
  case cons j rest hi =>
    cases slots
    case nil => exact mergeSlots_self hs
    case cons previous slots =>
      have ⟨hj, hs⟩ := List.forall_mem_cons.mp hs
      rw [mergeSlots_cons, mergeSlots_cons, hj, hi hs]

theorem mergeSlots_mergeEach (hs : ∀ j ∈ items, j.Settles) :
    mergeSlots items (mergeEach items earlier) = mergeEach items earlier := by
  induction items
  case nil => rfl
  case cons j rest hi =>
    have ⟨hj, hs⟩ := List.forall_mem_cons.mp hs
    exact congrArg₂ List.cons (hj earlier) (hi hs)

theorem mergeOver_arr (h : items ≠ []) : mergeOver (.arr items) earlier =
    match earlier with
    | .obj before => if before.isEmpty then .arr items else .arr (mergeEach items (.obj before))
    | .arr before => if before.isEmpty then .arr items else .arr (mergeSlots items before)
    | _ => .arr items := by
  cases earlier <;> exact if_neg (mt List.isEmpty_iff.mp h)

theorem mergeOver_arr_arr (h : items ≠ []) (hs : slots ≠ []) :
    mergeOver (.arr items) (.arr slots) = .arr (mergeSlots items slots) :=
  (mergeOver_arr h).trans (if_neg (mt List.isEmpty_iff.mp hs))

theorem mergeSlots_ne_nil (h : items ≠ []) : mergeSlots items slots ≠ [] := by
  cases items
  case nil => contradiction
  case cons => cases slots <;> exact List.cons_ne_nil _ _

theorem mergeEach_ne_nil (h : items ≠ []) : mergeEach items earlier ≠ [] := by
  cases items
  case nil => contradiction
  case cons => exact List.cons_ne_nil _ _

-- Whatever it was before, after an array it is an array whose slots hold the items already.
theorem exists_mergeOver_arr (h : items ≠ []) (hs : ∀ j ∈ items, j.Settles) (earlier : Json) :
    ∃ slots ≠ [], mergeOver (.arr items) earlier = .arr slots ∧ mergeSlots items slots = slots := by
  rw [mergeOver_arr h]
  cases earlier
  case obj before =>
    cases before
    case nil => exact ⟨items, h, rfl, mergeSlots_self hs⟩
    case cons => exact ⟨_, mergeEach_ne_nil h, rfl, mergeSlots_mergeEach hs⟩
  case arr before =>
    cases before
    case nil => exact ⟨items, h, rfl, mergeSlots_self hs⟩
    case cons => exact ⟨_, mergeSlots_ne_nil h, rfl, mergeSlots_mergeSlots hs⟩
  all_goals exact ⟨items, h, rfl, mergeSlots_self hs⟩

theorem settles_arr (hs : ∀ j ∈ items, j.Settles) : (arr items).Settles := by
  intro earlier
  by_cases h : items = []
  case pos => simp only [h, mergeOver_of_isEmpty (e := arr []) rfl]
  case neg =>
    have ⟨slots, hslots, heq, hsettled⟩ := exists_mergeOver_arr h hs earlier
    rw [heq, mergeOver_arr_arr h hslots, hsettled]

/-! ### Lists of values -/

theorem Distinct.settles (h : value.Distinct) : value.Settles := by
  induction value using inductionInside
  case scalar hc => exact settles_of_isContainer hc
  case arr items hi => exact settles_arr fun j hj => hi j hj (distinctItems_iff.mp h j hj)
  case obj members hi => exact settles_obj h.1 fun e he => hi e he (distinctMembers_iff.mp h.2 e he)

theorem mergeAll_append (values more : List Json) :
    mergeAll (values ++ more) = more.foldl (fun earlier later => mergeOver later earlier) (mergeAll values) :=
  List.foldl_append

-- A value that is merged twice in a row counts once, whatever came before it, and an empty value does not count at all.
theorem mergeAll_absorbs_and_skips :
    (∀ (values : List Json) (b : Json), b.Distinct → mergeAll (values ++ [b, b]) = mergeAll (values ++ [b])) ∧
      ∀ (before after : List Json) (e : Json), e.isEmpty →
        mergeAll (before ++ e :: after) = mergeAll (before ++ after) := by
  refine ⟨fun values b hb => ?_, fun before after e he => ?_⟩
  · rw [mergeAll_append, mergeAll_append]
    exact hb.settles _
  · rw [mergeAll_append, mergeAll_append, List.foldl_cons, mergeOver_of_isEmpty he]

theorem mergeAll_absorbs_broadcast :
    mergeAll [.arr [.obj [("a", true)], "x"], .obj [("a", .obj []), ("b", "y")]] =
        .arr [.obj [("a", true), ("b", "y")], .obj [("a", .obj []), ("b", "y")]] ∧
      mergeAll [.arr [.obj [("a", true)], "x"], .obj [("a", .obj []), ("b", "y")], .arr [],
          .obj [("a", .obj []), ("b", "y")]] =
        mergeAll [.arr [.obj [("a", true)], "x"], .obj [("a", .obj []), ("b", "y")]] := by
  have hrow : (obj [("a", .obj []), ("b", "y")]).Distinct := by simp [Distinct, DistinctMembers, Dict.keys]
  have hskip := mergeAll_absorbs_and_skips.2
    [.arr [.obj [("a", true)], "x"], .obj [("a", .obj []), ("b", "y")]] [.obj [("a", .obj []), ("b", "y")]] (.arr []) rfl
  exact ⟨by rfl, hskip.trans (mergeAll_absorbs_and_skips.1 [.arr [.obj [("a", true)], "x"]] _ hrow)⟩

end Json
end FormModel
