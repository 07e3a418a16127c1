import FormModel.Proofs.Build.Measure
import FormModel.Proofs.Pointer.Path

/-!
What stands in the slots of a control.  The control of a place is made from the schema there and the data
there, and what it has under a name or at a position is again a control for a place, made from what the
data has in the same slot, unless there is nothing in that slot of the data: then it may come from the library.
-/

namespace FormModel

namespace Template

variable {t : Template} {slot : Slot} {o : Option Template} {path : Path}

-- What a control has under a name or at a position; `none` if it has no such slot.
def slot? : Template → Slot → Option (Option Template)
  | group controls _, .member name => Dict.get? controls name
  | list controls _, .item i => controls[i]?
  | _, _ => none

-- The control at the end of names and positions, each followed from the one before.
def follow? (t : Template) : Path → Option Template
  | [] => some t
  | slot :: rest => (t.slot? slot).join.bind (follow? · rest)

theorem slot?_require : t.require.slot? slot = t.slot? slot := by cases t <;> cases slot <;> rfl

theorem require_require : t.require.require = t.require := by
  have hi (rules : RuleBag) : Dict.insert (Dict.insert rules "required" []) "required" [] =
      Dict.insert rules "required" [] := Dict.insert_get? (by simp [Dict.get?_insert])
  cases t <;> simp [require, withRules, Template.rules, hi]

-- A control that is required if asked for.
def requiredIf (asked : Bool) (t : Template) : Template := if asked then t.require else t

theorem requiredIf_requiredIf {a b : Bool} : (t.requiredIf b).requiredIf a = t.requiredIf (a || b) := by
  cases a <;> cases b <;> simp [requiredIf, require_require]

theorem map_requiredIf_false : Option.map (requiredIf false) = id := by
  funext o
  cases o <;> rfl

theorem updateAt?_group (controls : List (String × Option Template)) (bag : RuleBag) (name : String) :
    ∃ controls', ((group controls bag).updateAt? [name] require).getD (group controls bag) = group controls' bag ∧
      ∀ name', Dict.get? controls' name' = (Dict.get? controls name').map (Option.map (requiredIf (name' == name))) := by
  have hne {name' : String} (hn : ¬name = name') : (name' == name) = false := beq_eq_false_iff_ne.mpr (Ne.symm hn)
  cases hc : (group controls bag).child? name
  case none =>
    refine ⟨controls, by simp [updateAt?, hc], fun name' => ?_⟩
    by_cases hn : name = name'
    case neg => rw [hne hn, map_requiredIf_false, Option.map_id, id]
    case pos =>
      subst hn
      cases hg : Dict.get? controls name
      case none => rfl
      case some o =>
        obtain rfl : o = none := by simpa [child?, hg] using hc
        rfl
  case some child =>
    refine ⟨Dict.insert controls name (some child.require), by simp [updateAt?, hc, setChild], fun name' => ?_⟩
    rw [Dict.get?_insert]
    split
    case isFalse hn => rw [hne hn, map_requiredIf_false, Option.map_id, id]
    case isTrue hn =>
      subst hn
      rw [Option.join_eq_some_iff.mp hc, beq_self_eq_true]
      rfl

-- Children that are named are required, and all others are as they were.
theorem requireChildren_group (controls : List (String × Option Template)) (bag : RuleBag) (names : List String) :
    ∃ controls', (group controls bag).requireChildren names = group controls' bag ∧ ∀ name,
      Dict.get? controls' name = (Dict.get? controls name).map (Option.map (requiredIf (names.contains name))) := by
  unfold requireChildren
  induction names generalizing controls
  case nil => exact ⟨controls, rfl, fun name => by rw [List.contains_nil, map_requiredIf_false, Option.map_id, id]⟩
  case cons name names hi =>
    obtain ⟨controls₁, he₁, h₁⟩ := updateAt?_group controls bag name
    obtain ⟨controls₂, he₂, h₂⟩ := hi controls₁
    refine ⟨controls₂, by rw [List.foldl_cons, he₁, he₂], fun name' => ?_⟩
    have hcomp : requiredIf (names.contains name') ∘ requiredIf (name' == name) =
        requiredIf ((name :: names).contains name') := by
      funext t
      rw [Function.comp, requiredIf_requiredIf, List.contains_cons, Bool.or_comm]
    rw [h₂, h₁, Option.map_map, Option.map_comp_map, hcomp]

end Template

namespace Json

-- What a leaf holds of a value.
def leafValue (j : Json) : Json := if j.isContainer then .null else j

theorem eq_null_of_isNull {j : Json} (h : j.isNull) : j = .null := by
  cases j <;> first | rfl | contradiction

-- The value in a slot; where there is none, nothing.
def slotValue (j : Json) (slot : Slot) : Json := (j.atSlot? slot).getD .null

end Json

namespace Builder

-- Whether a place of the schema has a control of its own: it is there and is no repetition.
def HasControl (root : Json) (place : String) : Prop :=
  ∃ schema, root.at? place = some schema ∧ ControlKind.ofSchema schema ≠ .reference

-- Whether a slot is one of a tuple.
def isTupleSlot (node : Dict Json) : Slot → Bool
  | .item i => match node.get? "items" with
    | some (.arr tuple) => i < tuple.length
    | _ => false
  | .member _ => false

-- The place of the schema for what is in a slot of a node.
def slotPlace? (node : Dict Json) (place : String) : Slot → Option String
  | .member name =>
    if (declaredNames node).contains name then some (place ++ "/properties/" ++ Pointer.escape name)
    else if permitsExtra node then some (place ++ "/additionalProperties")
    else none
  | .item i => match node.get? "items" with
    | some (.arr tuple) =>
      if i < tuple.length then some (place ++ "/items/" ++ toString i)
      else if (node.get? "additionalItems").any Json.isObj then some (place ++ "/additionalItems")
      else none
    | some (.obj _) => some (place ++ "/items")
    | _ => none

-- The place from whose schema the control in a slot is built: a reference under a name is read, and items
-- that are not slots of a tuple are followed to the place that they repeat.
def buildPlace? (root : Json) (c : Context) (node : Dict Json) (slot : Slot) (place : String) : Option String :=
  match slot with
  | .member _ => match root.at? place with
    | some schema => if ControlKind.ofSchema schema = .reference then referredPlace? schema else some place
    | none => none
  | .item _ => some (if isTupleSlot node slot then place else itemsPlace c place)

variable {root schema data : Json} {c c₁ : Context} {node : Dict Json} {place own key name : String} {slot : Slot}
  {o : Option Template} {t : Template} {child site : Site} {Q : String → Json → Template → Prop}
  {build : Site → Builder (Option Template)} {i : Nat}

theorem propertySite?_eq_some (h : propertySite? node site name = some child) :
    slotPlace? node site.schemaPointer (.member name) = some child.schemaPointer ∧
      child.data = site.data.slotValue (.member name) := by
  have ⟨place, hp, hc⟩ := Option.map_eq_some_iff.mp h
  subst hc
  exact ⟨hp, by rw [Json.slotValue, ← Json.member?_eq_atSlot?]⟩

theorem data_itemSite : (itemSite site place (site.data.items?.getD []) i).data = site.data.slotValue (.item i) := by
  simp only [itemSite, List.getD_eq_getElem?_getD, Json.getElem?_items?, Json.slotValue]

theorem slotValue_of_length_le (h : (data.items?.getD []).length ≤ i) : data.slotValue (.item i) = .null := by
  rw [Json.slotValue, ← Json.getElem?_items?, List.getElem?_eq_none h, Option.getD_none]

section Gives

variable {α β : Type} {m : Builder α} {f : α → Builder β} {post post' : α → Prop} {post₁ : β → Prop}

-- Contexts with the same maps.
structure SameMaps (c c₁ : Context) : Prop where
  schemaRefs : c₁.schemaRefs = c.schemaRefs
  dataRefs : c₁.dataRefs = c.dataRefs
  arrays : c₁.arrays = c.arrays

-- A context with the same maps, in whose library there is nothing but controls for places without data.
structure Kept (c : Context) (Q : String → Json → Template → Prop) (c₁ : Context) : Prop extends SameMaps c c₁ where
  library : ∀ key {t}, c₁.libraryCopy? key = some t → ∃ place, Q place .null t

theorem Kept.of_library_nil (h : c.library = []) : Kept c Q c := by
  refine ⟨⟨rfl, rfl, rfl⟩, fun key t hc => ?_⟩
  simp [Context.libraryCopy?, h] at hc

theorem Kept.learn {generic : String} {f : NodeOptions → NodeOptions} (h : Kept c Q c₁) :
    Kept c Q (c₁.learn generic f) :=
  ⟨⟨h.schemaRefs, h.dataRefs, h.arrays⟩, h.library⟩

theorem libraryCopy?_setEntry {entry : LibraryEntry} {key' : String} :
    (c.setEntry key entry).libraryCopy? key' =
      if key = key' then (match entry with | .ready t => some t | .building => none) else c.libraryCopy? key' := by
  simp only [Context.libraryCopy?, Context.setEntry, Dict.get?_insert]
  by_cases hk : key = key'
  case pos => cases entry <;> simp [hk]
  case neg => simp [hk]

theorem Kept.setEntry {entry : LibraryEntry} (h : Kept c Q c₁)
    (he : ∀ t, entry = .ready t → ∃ place, Q place .null t) : Kept c Q (c₁.setEntry key entry) := by
  refine ⟨⟨h.schemaRefs, h.dataRefs, h.arrays⟩, fun {key' t} hc => ?_⟩
  rw [libraryCopy?_setEntry] at hc
  by_cases hk : key = key'
  case neg => exact h.library _ (if_neg hk ▸ hc)
  case pos =>
    rw [if_pos hk] at hc
    cases entry
    case building => contradiction
    case ready => exact he t (Option.some.inj hc ▸ rfl)

theorem Kept.dropEntry (h : Kept c Q c₁) : Kept c Q (c₁.dropEntry key) := by
  refine ⟨⟨h.schemaRefs, h.dataRefs, h.arrays⟩, fun {key' t} hc => h.library key' ?_⟩
  simp only [Context.libraryCopy?, Context.dropEntry, Dict.get?_erase] at hc ⊢
  split at hc
  case h_1 hg =>
    rw [(Option.ite_none_left_eq_some.mp hg).2]
    exact hc
  case h_2 => contradiction

theorem SameMaps.itemsPlace (h : SameMaps c c₁) : itemsPlace c₁ = itemsPlace c := by
  funext place
  rw [Builder.itemsPlace, Builder.itemsPlace, h.schemaRefs]

-- What a piece of building keeps and gives, wherever it comes to an end.
structure Gives (c : Context) (Q : String → Json → Template → Prop) (m : Builder α) (post : α → Prop) : Prop where
  ok : ∀ {c₁ r}, Kept c Q c₁ → m c₁ = .ok r → Kept c Q r.2 ∧ post r.1

namespace Gives

theorem pure {a : α} (h : post a) : Gives c Q (pure a) post where
  ok hk hr := Except.ok.inj hr ▸ ⟨hk, h⟩

theorem bind (h : Gives c Q m post) (hf : ∀ a, post a → Gives c Q (f a) post₁) : Gives c Q (m >>= f) post₁ where
  ok hk hr := by
    have ⟨a, c₂, hm, hr⟩ := bind_eq_ok.mp hr
    have ⟨hk, ha⟩ := h.ok hk hm
    exact (hf a ha).ok hk hr

theorem get_bind {f : Context → Builder β} (hf : ∀ c₁, Kept c Q c₁ → Gives c Q (f c₁) post₁) :
    Gives c Q (get >>= f) post₁ where
  ok hk hr := (hf _ hk).ok hk hr

theorem modify {g : Context → Context} (hg : ∀ {c₁}, Kept c Q c₁ → Kept c Q (g c₁)) :
    Gives c Q (modify g) fun _ => True where
  ok hk hr := Except.ok.inj hr ▸ ⟨hg hk, trivial⟩

theorem imp (h : Gives c Q m post) (hp : ∀ a, post a → post' a) : Gives c Q m post' where
  ok hk hr := (h.ok hk hr).imp_right (hp _)

end Gives

end Gives

-- What is asked of the control for a place: there is one where there should be, and it is as it should be.
structure Built (root : Json) (Q : String → Json → Template → Prop) (place : String) (data : Json)
    (o : Option Template) : Prop where
  isSome : o.isSome ↔ HasControl root place
  control : ∀ {t}, o = some t → Q place data t

-- Where what is in a slot of a control may come from.
inductive Fills (root : Json) (c : Context) (Q : String → Json → Template → Prop) (node : Dict Json) (place : String)
    (data : Json) (slot : Slot) : Option Template → Prop where
  | built {o : Option Template} {own p : String} (hs : slotPlace? node place slot = some own)
    (hp : buildPlace? root c node slot own = some p) (h : Built root Q p (data.slotValue slot) o) :
    Fills root c Q node place data slot o
  | copied {t : Template} {p : String} (hv : data.slotValue slot = .null) (h : Q p .null t) :
    Fills root c Q node place data slot (some t)
  | empty (hv : data.slotValue slot = .null) : Fills root c Q node place data slot none
  | unread {own : String} (hs : slotPlace? node place slot = some own)
    (hp : buildPlace? root c node slot own = none) : Fills root c Q node place data slot none

-- The control for a place and some data: a leaf holds the data, and every slot is filled.
structure Pictures (root : Json) (c : Context) (Q : String → Json → Template → Prop) (place : String) (data : Json)
    (t : Template) : Prop where
  leaf : ∀ {value disabled rules}, t = .leaf value disabled rules → value = data.leafValue
  slots : ∀ {slot o}, t.slot? slot = some o →
    ∃ schema, root.at? place = some schema ∧ Fills root c Q (schemaNode schema) place data slot o

theorem Pictures.require (h : Pictures root c Q place data t) : Pictures root c Q place data t.require where
  leaf he := by
    cases t <;> cases he
    exact h.leaf rfl
  slots ho := h.slots (Template.slot?_require ▸ ho)

section Pieces

variable (hreq : ∀ place data t, Q place data t → Q place data t.require)
  (hb : ∀ site, Gives c Q (build site) (Built root Q site.schemaPointer site.data))

include hreq in
theorem Fills.require (h : Fills root c Q node place data slot o) :
    Fills root c Q node place data slot (o.map Template.require) := by
  cases h
  case built hs hp h =>
    refine .built hs hp ⟨by rw [Option.isSome_map, h.isSome], fun {t} ht => ?_⟩
    obtain ⟨t', ht', rfl⟩ := Option.map_eq_some_iff.mp ht
    exact hreq _ _ _ (h.control ht')
  case copied hv h => exact .copied hv (hreq _ _ _ h)
  case empty hv => exact .empty hv
  case unread hs hp => exact .unread hs hp

include hb

theorem gives_repeated {templatePointer : String} :
    Gives c Q (repeated build key place templatePointer) fun _ => True := by
  refine ⟨fun {c₁ r} hk hr => ⟨?_, trivial⟩⟩
  rw [repeated_eq] at hr
  split at hr
  case isTrue => exact Except.ok.inj hr ▸ hk
  case isFalse =>
    have hk : Kept c Q (c₁.setEntry key .building) := hk.setEntry nofun
    split at hr
    case h_1 t c₂ hm =>
      have ⟨hk, ht⟩ := (hb _).ok hk hm
      refine Except.ok.inj hr ▸ hk.setEntry fun t' he => ?_
      cases he
      exact ⟨_, ht.control rfl⟩
    case h_2 c₂ hm => exact Except.ok.inj hr ▸ ((hb _).ok hk hm).1.dropEntry
    case h_3 => contradiction

theorem gives_ofReference (hc : propertySite? node site name = some child) (hn : ¬HasControl root child.schemaPointer) :
    Gives c Q (ofReference root build child) (Fills root c Q node site.schemaPointer site.data (.member name)) := by
  have ⟨hs, hd⟩ := propertySite?_eq_some hc
  unfold ofReference
  split
  case h_1 hr => exact .pure (.unread hs (by simp [buildPlace?, hr]))
  case h_2 schema hr =>
    have hkind : ControlKind.ofSchema schema = .reference := Decidable.byContradiction fun hk => hn ⟨schema, hr, hk⟩
    have hplace : buildPlace? root c node (.member name) child.schemaPointer = referredPlace? schema := by
      simp [buildPlace?, hr, hkind]
    rw [if_neg (not_not.mpr hkind)]
    split
    case h_1 ht => exact .pure (.unread hs (hplace.trans ht))
    case h_2 target ht =>
      split
      case isTrue hnull =>
        have hv : site.data.slotValue (.member name) = .null := hd ▸ Json.eq_null_of_isNull hnull
        refine .get_bind fun c₁ hk => .pure ?_
        cases hl : (referenceKey? root c₁ target).bind c₁.libraryCopy?
        case none => exact .empty hv
        case some t =>
          have ⟨key, _, hl⟩ := Option.bind_eq_some_iff.mp hl
          have ⟨p, hq⟩ := hk.library _ hl
          exact .copied hv hq
      case isFalse => exact (hb _).imp fun o ho => .built hs (hplace.trans ht) (hd ▸ ho)

theorem gives_ofProperties {names : List String} {controls : Dict (Option Template)}
    (hc : ∀ {name o}, controls.get? name = some o → Fills root c Q node site.schemaPointer site.data (.member name) o) :
    Gives c Q (ofProperties root build node site names controls) fun controls' =>
      ∀ {name o}, controls'.get? name = some o → Fills root c Q node site.schemaPointer site.data (.member name) o := by
  induction names generalizing controls
  case nil => exact .pure hc
  case cons name names hi =>
    unfold ofProperties
    split
    case h_1 => exact hi hc
    case h_2 child hp =>
      have ⟨hs, hd⟩ := propertySite?_eq_some hp
      have hinsert : ∀ {o}, Fills root c Q node site.schemaPointer site.data (.member name) o → ∀ {name' o'},
          (controls.insert name o).get? name' = some o' →
            Fills root c Q node site.schemaPointer site.data (.member name') o' := by
        intro o ho name' o' hg
        rw [Dict.get?_insert] at hg
        split at hg
        case isTrue he => exact he ▸ Option.some.inj hg ▸ ho
        case isFalse => exact hc hg
      refine (hb child).bind fun control hcontrol => ?_
      split
      case isTrue hsome =>
        have ⟨schema, hr, hk⟩ := hcontrol.isSome.mp hsome
        exact hi (hinsert (.built hs (by simp [buildPlace?, hr, hk]) (hd ▸ hcontrol)))
      case isFalse hnone =>
        exact (gives_ofReference hb hp (hcontrol.isSome.not.mp hnone)).bind fun o ho => hi (hinsert ho)

include hreq in
theorem gives_ofGroup {rules : RuleBag} {generic : String} :
    Gives c Q (ofGroup root build schema rules generic site) fun t => ∃ controls, t = .group controls rules ∧
      ∀ {name o}, Dict.get? controls name = some o →
        Fills root c Q (schemaNode schema) site.schemaPointer site.data (.member name) o := by
  unfold ofGroup
  have hempty : ∀ {name o}, Dict.get? ([] : Dict (Option Template)) name = some o →
    Fills root c Q (schemaNode schema) site.schemaPointer site.data (.member name) o := nofun
  refine (gives_ofProperties hb hempty).bind fun controls hc => ?_
  have hgroup : ∃ controls', ((Template.group controls rules).requireFields schema).2 = .group controls' rules ∧
      ∀ {name o}, Dict.get? controls' name = some o →
        Fills root c Q (schemaNode schema) site.schemaPointer site.data (.member name) o := by
    have ⟨controls', he, hr⟩ :=
      Template.requireChildren_group controls rules ((Template.requiredNames? schema).getD [])
    refine ⟨controls', he, fun {name o} ho => ?_⟩
    rw [hr] at ho
    obtain ⟨o', ho', rfl⟩ := Option.map_eq_some_iff.mp ho
    cases ((Template.requiredNames? schema).getD []).contains name
    case false =>
      rw [Template.map_requiredIf_false, id]
      exact hc ho'
    case true => exact (hc ho').require hreq
  split
  case h_1 => exact (Gives.modify .learn).bind fun _ _ => .pure hgroup
  case h_2 => exact .pure hgroup

variable {items : List Json} {generic : String} {recursive : Bool} {minItems maxItems count : Nat} {tuple : List Json}

-- The item at a position, at the place where the schema for it stands.
theorem gives_ofItem (hs : slotPlace? node site.schemaPointer (.item i) = some own)
    (hp : buildPlace? root c node (.item i) own = some place) :
    Gives c Q (ofItem build (site.data.items?.getD []) recursive key (itemSite site place (site.data.items?.getD []) i) i)
      (Fills root c Q node site.schemaPointer site.data (.item i)) := by
  unfold ofItem
  split
  case isTrue => exact (hb _).imp fun o ho => .built hs hp (data_itemSite ▸ ho)
  case isFalse hi =>
    have hv := slotValue_of_length_le (Nat.le_of_not_lt hi)
    split
    case isTrue => exact .pure (.empty hv)
    case isFalse =>
      refine .get_bind fun c₁ hk => .pure ?_
      cases hl : c₁.libraryCopy? key
      case none => exact .empty hv
      case some t =>
        have ⟨p, hq⟩ := hk.library _ hl
        exact .copied hv hq

theorem gives_ofSlots (ht : node.get? "items" = some (.arr tuple)) (hi : i + count ≤ tuple.length) :
    Gives c Q (ofSlots build generic site (site.data.items?.getD []) minItems i count) fun controls =>
      controls.length = count ∧ ∀ {k o}, controls[k]? = some o →
        Fills root c Q node site.schemaPointer site.data (.item (i + k)) o := by
  induction count generalizing i
  case zero => exact .pure ⟨rfl, nofun⟩
  case succ count hn =>
    have hlt : i < tuple.length := by omega
    have hs : slotPlace? node site.schemaPointer (.item i) = some (site.schemaPointer ++ "/items/" ++ toString i) := by
      simp [slotPlace?, ht, hlt]
    have hp : buildPlace? root c node (.item i) (site.schemaPointer ++ "/items/" ++ toString i) =
        some (site.schemaPointer ++ "/items/" ++ toString i) := by
      simp [buildPlace?, isTupleSlot, ht, hlt]
    have hslot : Gives c Q (ofSlot build generic site (site.data.items?.getD []) minItems i)
        (Fills root c Q node site.schemaPointer site.data (.item i)) := by
      unfold ofSlot
      split
      case isTrue => exact (hb _).imp fun o ho => .built hs hp (data_itemSite ▸ ho)
      case isFalse => exact .get_bind fun _ _ => (gives_repeated hb).bind fun _ _ => gives_ofItem hb hs hp
    refine hslot.bind fun control hc => (hn (by omega)).bind fun controls hcs => .pure ⟨by simp [hcs.1], ?_⟩
    intro k o ho
    cases k
    case zero => exact Option.some.inj ho ▸ hc
    case succ k =>
      rw [show i + (k + 1) = i + 1 + k by omega]
      exact hcs.2 ho

theorem gives_ofItems (hs : ∀ k, i ≤ k → slotPlace? node site.schemaPointer (.item k) = some own)
    (hp : ∀ k, i ≤ k → buildPlace? root c node (.item k) own = some place) :
    Gives c Q (ofItems build site place (site.data.items?.getD []) recursive key i count) fun controls =>
      ∀ {k o}, controls[k]? = some o → Fills root c Q node site.schemaPointer site.data (.item (i + k)) o := by
  induction count generalizing i
  case zero => exact .pure nofun
  case succ count hn =>
    refine (gives_ofItem hb (hs i (Nat.le_refl i)) (hp i (Nat.le_refl i))).bind fun control hc => ?_
    refine (hn (fun k hk => hs k (by omega)) fun k hk => hp k (by omega)).bind fun controls hcs => .pure fun {k o} ho => ?_
    cases k
    case zero => exact Option.some.inj ho ▸ hc
    case succ k =>
      rw [show i + (k + 1) = i + 1 + k by omega]
      exact hcs ho

theorem gives_ofFurtherItems {slots : Nat} (hp : itemsSchema? node site maxItems = some own)
    (hn : ∀ tuple, node.get? "items" = some (.arr tuple) → slots = min tuple.length maxItems) :
    Gives c Q (ofFurtherItems build generic site (site.data.items?.getD []) own slots minItems maxItems) fun controls =>
      ∀ {k o}, controls[k]? = some o → Fills root c Q node site.schemaPointer site.data (.item (slots + k)) o := by
  have hfurther : ∀ k, slots ≤ k → slotPlace? node site.schemaPointer (.item k) = some own ∧
      isTupleSlot node (.item k) = false := by
    intro k hk
    unfold itemsSchema? at hp
    split at hp
    case h_1 tuple ht =>
      have ⟨hc, hp⟩ := Option.ite_none_right_eq_some.mp hp
      simp only [Bool.and_eq_true, decide_eq_true_eq] at hc
      have hlt : ¬k < tuple.length := by
        have := hn tuple ht
        omega
      simp [slotPlace?, isTupleSlot, ht, hlt, hc.2, hp]
    case h_2 ht => simp [slotPlace?, isTupleSlot, ht, hp]
    case h_3 => contradiction
  unfold ofFurtherItems
  refine .get_bind fun c₁ hk => (gives_repeated hb).bind fun _ _ => (Gives.modify .learn).bind fun _ _ => ?_
  refine gives_ofItems hb (fun k hk => (hfurther k hk).1) fun k hk' => ?_
  rw [buildPlace?, if_neg (by simp [(hfurther k hk').2])]
  exact congrArg some (congrFun hk.itemsPlace own).symm

-- The items beyond a tuple come after its slots.
theorem gives_further {rules : RuleBag} {slots : List (Option Template)}
    (hn : ∀ tuple, node.get? "items" = some (.arr tuple) → slots.length = min tuple.length maxItems)
    (hs : ∀ {i o}, slots[i]? = some o → Fills root c Q node site.schemaPointer site.data (.item i) o) :
    Gives c Q
      (do
        let further ←
          match itemsSchema? node site maxItems with
          | some place => ofFurtherItems build generic site (site.data.items?.getD []) place slots.length minItems maxItems
          | none => pure []
        return Template.list (slots ++ further) rules)
      fun t => ∃ controls, t = .list controls rules ∧ ∀ {i o}, controls[i]? = some o →
        Fills root c Q node site.schemaPointer site.data (.item i) o := by
  have happend : ∀ further : List (Option Template), (∀ {k o}, further[k]? = some o →
      Fills root c Q node site.schemaPointer site.data (.item (slots.length + k)) o) → ∀ {i o},
        (slots ++ further)[i]? = some o → Fills root c Q node site.schemaPointer site.data (.item i) o := by
    intro further hf i o ho
    rw [List.getElem?_append] at ho
    split at ho
    case isTrue => exact hs ho
    case isFalse hi =>
      rw [show i = slots.length + (i - slots.length) by omega]
      exact hf ho
  split
  case h_1 place hp =>
    exact (gives_ofFurtherItems hb hp hn).bind fun further hf => .pure ⟨_, rfl, happend further hf⟩
  case h_2 => exact .pure ⟨_, rfl, happend [] nofun⟩

theorem gives_ofList {rules : RuleBag} :
    Gives c Q (ofList build node rules generic site) fun t => ∃ controls, t = .list controls rules ∧
      ∀ {i o}, controls[i]? = some o → Fills root c Q node site.schemaPointer site.data (.item i) o := by
  unfold ofList
  refine .get_bind fun c₁ _ => (Gives.modify .learn).bind fun _ _ => ?_
  dsimp only
  split
  case h_1 tuple ht =>
    refine (Gives.modify .learn).bind fun _ _ => (gives_ofSlots hb ht (by omega)).bind fun slots ⟨hl, hs⟩ => ?_
    refine gives_further hb (fun tuple' ht' => ?_) fun {i o} ho => Nat.zero_add i ▸ hs ho
    obtain rfl := Json.arr.inj (Option.some.inj (ht.symm.trans ht'))
    exact hl
  case h_2 hn => exact gives_further hb (fun tuple ht => absurd ht (hn tuple)) nofun

include hreq in
theorem gives_ofNode : Gives c Q (ofNode root false build site) fun o => (o.isSome ↔ HasControl root site.schemaPointer) ∧
    ∀ {t}, o = some t → Pictures root c Q site.schemaPointer site.data t := by
  unfold ofNode
  split
  case h_1 hs => exact .pure ⟨by simp [HasControl, hs], nofun⟩
  case h_2 schema hs =>
    simp only [Bool.and_false, Bool.false_eq_true, if_false]
    split
    case h_1 hk =>
      have hnone : ((none : Option Template).isSome ↔ HasControl root site.schemaPointer) := by
        simp [HasControl, hs, hk]
      split
      case h_1 => exact .pure ⟨hnone, nofun⟩
      case h_2 target ht =>
        refine .get_bind fun c₁ _ => ?_
        split
        case h_1 => exact .pure ⟨hnone, nofun⟩
        case h_2 key _ => exact (gives_repeated hb).bind fun _ _ => .pure ⟨hnone, nofun⟩
    case h_2 kind hk =>
      have hsome {t : Template} : (some t).isSome ↔ HasControl root site.schemaPointer :=
        iff_of_true rfl ⟨schema, hs, hk⟩
      refine .get_bind fun c₁ _ => (Gives.modify .learn).bind fun _ _ => ?_
      split
      case h_1 =>
        refine (gives_ofGroup hreq hb).bind fun t ⟨controls, ht, hc⟩ => .pure ⟨hsome, fun he => ?_⟩
        obtain rfl := Option.some.inj he
        subst ht
        exact ⟨nofun, fun {slot o} ho => by cases slot <;> first | contradiction | exact ⟨schema, hs, hc ho⟩⟩
      case h_2 =>
        refine (gives_ofList hb).bind fun t ⟨controls, ht, hc⟩ => .pure ⟨hsome, fun he => ?_⟩
        obtain rfl := Option.some.inj he
        subst ht
        exact ⟨nofun, fun {slot o} ho => by cases slot <;> first | contradiction | exact ⟨schema, hs, hc ho⟩⟩
      case h_3 =>
        refine .get_bind fun c₂ _ => .pure ⟨hsome, fun he => ?_⟩
        obtain rfl := Option.some.inj he
        refine ⟨fun he => ?_, fun {slot o} ho => by cases slot <;> contradiction⟩
        cases he
        rfl

end Pieces

section Within

variable {levels : Nat} (hreq : ∀ place data t, Q place data t → Q place data t.require)
  (hq : ∀ {levels site c₁ t c₂}, SameMaps c c₁ → within root false levels site c₁ = .ok (some t, c₂) →
    Pictures root c Q site.schemaPointer site.data t → Q site.schemaPointer site.data t)

include hreq hq

-- What follows for a control from its picture is true of all controls that are built.
theorem gives_within : Gives c Q (within root false levels site) (Built root Q site.schemaPointer site.data) := by
  induction levels generalizing site
  case zero => exact ⟨nofun⟩
  case succ levels hi =>
    refine ⟨fun {c₁ r} hk hr => ?_⟩
    have ⟨hk', hs, hp⟩ := (gives_ofNode hreq fun _ => hi).ok hk hr
    obtain ⟨o, c₂⟩ := r
    refine ⟨hk', hs, fun {t} ht => ?_⟩
    obtain rfl : o = some t := ht
    exact hq hk.toSameMaps hr (hp rfl)

theorem pictures_of_within {c₂ : Context} (hk : Kept c Q c₁) (h : within root false levels site c₁ = .ok (some t, c₂)) :
    Pictures root c Q site.schemaPointer site.data t := by
  cases levels
  case zero => contradiction
  case succ => exact ((gives_ofNode hreq fun _ => gives_within hreq hq).ok hk h).2.2 rfl

end Within

end Builder

end FormModel
