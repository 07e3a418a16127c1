import FormModel.Proofs.FormData.Leaves
import FormModel.Proofs.Json.Places

/-!
What is written while data are formatted.  Without empty fields a value is written at most once by its type and once more
as a date and time, and an object has empty containers written for members required of it that are not there yet; what
else there is in the result has been made on the way.
-/

namespace FormModel

namespace FormData

section Writes

variable (c : Context) (fixErrors : Bool)

/-- The result with a value written to a place. -/
def apply (result : Json) (w : Path × Json) : Json := result.put (Pointer.ofPath w.1) w.2

/-- The result after some writes. -/
def replay (ws : List (Path × Json)) (result : Json) : Json := ws.foldl apply result

/-- The empty containers that are written for the required members of an object. -/
def requiredWrites (generic : String) (path : Path) : List String → Json → List (Path × Json)
  | [], _ => []
  | name :: names, result =>
    match requiredContainer? c generic name with
    | none => requiredWrites generic path names result
    | some container =>
      let w := (path ++ [Slot.member name], container)
      if result.has (.text (Pointer.ofPath w.1)) then requiredWrites generic path names result
      else w :: requiredWrites generic path names (apply result w)

/-- What is written for a value by the type of its place. -/
def typedWrites (path : Path) (o : NodeOptions) (value result : Json) : List (Path × Json) :=
  if o.primaryType?.getD "" = "null" then [(path, .null)]
  else match typed? o fixErrors value with
    | some v => [(path, v)]
    | none =>
      if o.primaryType?.getD "" = "object" then
        requiredWrites c (knownPointer c (Pointer.ofPath path)) path o.required result
      else []

/-- What is written for a value. -/
def writesAt (path : Path) (value result : Json) : List (Path × Json) :=
  match known? c (Pointer.ofPath path) with
  | none => []
  | some o => typedWrites c fixErrors path o value result ++ ((dateTime? o fixErrors value).map (path, ·)).toList

/-- What is written for values, one after the other. -/
def writesFrom : List (Path × Json) → Json → List (Path × Json)
  | [], _ => []
  | e :: rest, result =>
    let ws := writesAt c fixErrors e.1 e.2 result
    ws ++ writesFrom rest (replay ws result)

/-- All that is written when data are formatted without empty fields. -/
def writes (data : Json) : List (Path × Json) := writesFrom c fixErrors data.places (Json.emptyContainer data.isArr)

end Writes

variable {c : Context} {fixErrors : Bool} {data result u v x : Json} {p q : Path} {w : Path × Json}
  {ws ws' : List (Path × Json)} {o : NodeOptions}

theorem replay_append : replay (ws ++ ws') result = replay ws' (replay ws result) := List.foldl_append

theorem addRequired_eq_replay {generic : String} {names : List String} :
    addRequired c generic (Pointer.ofPath p) names result = replay (requiredWrites c generic p names result) result := by
  induction names generalizing result
  case nil => rfl
  case cons name names hi =>
    simp only [addRequired, List.foldl_cons, requiredWrites] at hi ⊢
    cases requiredContainer? c generic name
    case none => exact hi
    case some container =>
      dsimp only
      rw [← Pointer.ofPath_concat]
      split
      case isTrue => exact hi
      case isFalse => exact hi

theorem writeTyped_eq_replay : writeTyped c ⟨false, fixErrors⟩ (knownPointer c (Pointer.ofPath p)) (Pointer.ofPath p) o v result =
    replay (typedWrites c fixErrors p o v result) result := by
  simp only [writeTyped, convert?_eq, typedWrites, typed?, Bool.or_false, Bool.not_false, Bool.and_true, decide_eq_true_eq]
  by_cases hn : o.primaryType?.getD "" = "null"
  case pos => rw [if_pos hn, if_pos hn]; rfl
  case neg =>
    rw [if_neg hn, if_neg hn]
    by_cases hs : (v.hasValue && isScalarType (o.primaryType?.getD "")) = true
    case pos =>
      -- What cannot be converted is not written; a scalar type is not that of an object.
      have ho : o.primaryType?.getD "" ≠ "object" := fun ho => by simp [ho, isScalarType] at hs
      rw [if_pos hs, if_pos hs]
      split <;> simp_all [replay, apply]
    case neg =>
      rw [if_neg hs, if_neg hs]
      split
      case isTrue => exact addRequired_eq_replay
      case isFalse => rfl

theorem write_eq_replay : write c ⟨false, fixErrors⟩ (Pointer.ofPath p) v result =
    replay (writesAt c fixErrors p v result) result := by
  simp only [write, Bool.false_and, Bool.false_eq_true, if_false, writesAt]
  cases hk : known? c (Pointer.ofPath p)
  case none =>
    rw [known?] at hk
    rw [hk]
    rfl
  case some o =>
    rw [known?] at hk
    rw [hk]
    dsimp only
    rw [writeDateTime_eq, writeTyped_eq_replay, replay_append]
    cases dateTime? o fixErrors v <;> rfl

theorem writeAll_eq_replay {es : List (Path × Json)} :
    writeAll c fixErrors (es.map fun e => (Pointer.ofPath e.1, e.2)) result = replay (writesFrom c fixErrors es result) result := by
  induction es generalizing result
  case nil => rfl
  case cons e es hi =>
    rw [writeAll, List.map_cons, List.foldl_cons, writesFrom, replay_append, ← write_eq_replay]
    exact hi

-- The result is what has been written, one after the other.
theorem format_eq_replay (h : data.isContainer) : format c ⟨false, fixErrors⟩ data =
    replay (writes c fixErrors data) (Json.emptyContainer data.isArr) := by
  rw [format, if_pos h, Json.nodes_eq_places]
  exact writeAll_eq_replay

end FormData

end FormModel
