import FormModel.Template.Locate
import FormModel.Proofs.Dict

/-!
What the JSON form of a control holds: all of the control, so that it can be read back from it, and the forms
of the controls inside under the same paths.
-/

namespace FormModel.Template

variable {controls : List (String × Option Template)} {items : List (Option Template)}

-- Induction on a control, with the controls of a group or a list as what is smaller.
@[elab_as_elim]
theorem inductionInside {motive : Template → Prop}
    (group : ∀ controls rules, (∀ name t, (name, some t) ∈ controls → motive t) → motive (.group controls rules))
    (list : ∀ items rules, (∀ t, some t ∈ items → motive t) → motive (.list items rules))
    (leaf : ∀ value disabled rules, motive (.leaf value disabled rules)) (t : Template) : motive t := by
  induction hn : sizeOf t using Nat.strongRecOn generalizing t
  case ind n hi =>
    subst hn
    cases t
    case group controls rules =>
      refine group controls rules fun name t hm => hi _ ?_ t rfl
      have hlt := List.sizeOf_lt_of_mem hm
      simp at hlt ⊢
      omega
    case list items rules =>
      refine list items rules fun t hm => hi _ ?_ t rfl
      have hlt := List.sizeOf_lt_of_mem hm
      simp at hlt ⊢
      omega
    case leaf value disabled rules => exact leaf value disabled rules

-- The JSON form of what is at a place, which may have been left without a control.
def placeToJson : Option Template → Json
  | some t => t.toJson
  | none => .null

theorem membersToJson_eq : membersToJson controls = Dict.mapValues placeToJson controls := by
  induction controls
  case nil => rfl
  case cons e controls hi =>
    obtain ⟨name, _ | t⟩ := e <;> simp [membersToJson, hi, Dict.mapValues, placeToJson]

theorem itemsToJson_eq : itemsToJson items = items.map placeToJson := by
  induction items
  case nil => rfl
  case cons place items hi => cases place <;> simp [itemsToJson, hi, placeToJson]

-- No control has the form of a place without one.
theorem exists_toJson (t : Template) : ∃ members, t.toJson = .obj members := by cases t <;> exact ⟨_, rfl⟩

section Reading

theorem membersOf?_membersToJson (h : ∀ name t, (name, some t) ∈ controls → ofJson? t.toJson = some t) :
    membersOf? (membersToJson controls) = some controls := by
  induction controls
  case nil => rfl
  case cons e controls hi =>
    have hi := hi fun name t hm => h name t (List.mem_cons_of_mem _ hm)
    obtain ⟨name, _ | t⟩ := e
    case none => simp [membersToJson, membersOf?, hi]
    case some =>
      have ht := h name t List.mem_cons_self
      have ⟨members, hm⟩ := t.exists_toJson
      rw [hm] at ht
      simp [membersToJson, membersOf?, hm, ht, hi]

theorem itemsOf?_itemsToJson (h : ∀ t, some t ∈ items → ofJson? t.toJson = some t) :
    itemsOf? (itemsToJson items) = some items := by
  induction items
  case nil => rfl
  case cons place items hi =>
    have hi := hi fun t hm => h t (List.mem_cons_of_mem _ hm)
    cases place
    case none => simp [itemsToJson, itemsOf?, hi]
    case some t =>
      have ht := h t List.mem_cons_self
      have ⟨members, hm⟩ := t.exists_toJson
      rw [hm] at ht
      simp [itemsToJson, itemsOf?, hm, ht, hi]

-- A control is read back from its JSON form as it was, with all controls and rules in their order.
theorem read_back_of_toJson (t : Template) : ofJson? t.toJson = some t := by
  induction t using Template.inductionInside
  case group controls rules hi =>
    simp [toJson, ofJson?, isOfKind, Dict.get?, Json.string?, groupControls?, membersOf?_membersToJson hi,
      RuleBag.ofJson?_toJson]
  case list items rules hi =>
    simp [toJson, ofJson?, isOfKind, Dict.get?, Json.string?, listControls?, itemsOf?_itemsToJson hi,
      RuleBag.ofJson?_toJson]
  case leaf value disabled rules =>
    simp [toJson, ofJson?, isOfKind, Dict.get?, Json.string?, leafOf?, Json.bool?, RuleBag.ofJson?_toJson]

end Reading

section Locating

variable {place : Option (Option Template)}

-- What is at a place and is not `null` is a control.
theorem filter_placeToJson : (place.map placeToJson).filter (!·.isNull) = place.join.map toJson := by
  rcases place with _ | _ | t
  case none => rfl
  case some.none => rfl
  case some.some =>
    have ⟨members, hm⟩ := t.exists_toJson
    simp [placeToJson, hm, Json.isNull]

theorem control?_toJson (t : Template) (key : String) : t.toJson.control? key = (t.child? key).map toJson := by
  cases t
  case group controls rules =>
    have hm : (group controls rules).toJson.member? "controls" = some (.obj (Dict.mapValues placeToJson controls)) := by
      simp [toJson, Json.member?, Json.members?, Dict.get?, membersToJson_eq]
    rw [Json.control?, hm, child?, ← filter_placeToJson, ← Dict.get?_mapValues]
  case list items rules =>
    have hm : (list items rules).toJson.member? "controls" = some (.arr (items.map placeToJson)) := by
      simp [toJson, Json.member?, Json.members?, Dict.get?, itemsToJson_eq]
    simp only [Json.control?, hm, child?, List.length_map]
    cases listPosition? key items.length
    case none => rfl
    case some i => rw [Option.bind_some, Option.bind_some, List.getElem?_map, filter_placeToJson]
  case leaf => rfl

theorem descendantControl?_toJson (t : Template) (keys : List String) :
    t.toJson.descendantControl? keys = (t.descendant? keys).map toJson := by
  induction keys generalizing t
  case nil => rfl
  case cons key keys hi =>
    rw [Json.descendantControl?, descendant?, control?_toJson]
    cases t.child? key
    case none => rfl
    case some child => exact hi child

-- A path leads through the JSON form of a control to the form of what it leads to in the control, if to anything.
theorem locateControl?_toJson (t : Template) (path : String) (parent : Bool) :
    t.toJson.locateControl? path parent = (t.locate? path parent).map toJson := by
  rw [Json.locateControl?, locate?]
  cases pathTokens? path parent
  case none => rfl
  case some keys => exact t.descendantControl?_toJson keys

end Locating

end FormModel.Template
