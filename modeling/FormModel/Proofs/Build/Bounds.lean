import FormModel.Proofs.Build.Entries
import FormModel.Proofs.Build.Slots
import FormModel.Proofs.Decimal.Whole
import FormModel.Proofs.Pointer.NormalForm
import FormModel.Proofs.Reference.Repetitions

/-!
The number of controls in a list.  A list of items that are all alike has a control for each of its items and as many
more as `minItems` asks for, but no more than `maxItems` allows, nor than the length of a list whose schema sets no
other limit, which holds here too.  Where the place of the items is noted to repeat the list, whatever has been noted
so, nothing is added to the items of the data.
-/

namespace FormModel

namespace Pointer

variable {arrays : ArrayMap} {refs : RecursionMap} {token : String}

-- Above a place directly below the root there is nothing but the root.
theorem folded_token : Folded refs (compile [token]) ↔ (compile [token], "") ∉ refs := by
  constructor
  case mp =>
    intro hf hm
    have ha : isAncestor "" (compile [token]) false = true := @isAncestor_append [] [.member token]
    have hs := isAncestor_strict ha fun he => nomatch (compile_injective he : [] = [token])
    exact absurd (hf _ hm hs) (by simp [isAncestor_self])
  case mpr =>
    intro hn e he hs
    refine Bool.eq_false_iff.mpr fun ha => ?_
    obtain ⟨front, rest, ht, hfront⟩ := exists_append_of_isAncestor ha
    rcases List.append_eq_singleton_iff.mp ht.symm with ⟨rfl, _⟩ | ⟨rfl, _⟩
    case inl =>
      have hroot : e.1 = "" := hfront
      rw [hroot, not_isAncestor_empty] at hs
      contradiction
    case inr =>
      obtain ⟨front', rest', ht', hne, hfront'⟩ := exists_append_of_isAncestor_strict (hfront ▸ hs)
      rcases List.append_eq_singleton_iff.mp ht'.symm with ⟨rfl, _⟩ | ⟨_, rfl⟩
      case inl => exact hn (hfront ▸ (show e.2 = "" from hfront') ▸ he)
      case inr => exact hne rfl

theorem fold?_token (ht : token ≠ "") (hg : Generic arrays (compile [token])) :
    (fold? refs arrays (compile [token])).getD (compile [token]) = compile [token] ↔ (compile [token], "") ∉ refs := by
  rw [← folded_token]
  constructor
  case mp =>
    intro h
    obtain ⟨p, hp, _, hf⟩ := exists_fold? refs arrays (parse?_compile (show [token] ≠ [""] by simpa using ht))
    rw [hp, Option.getD_some] at h
    exact h ▸ hf
  case mpr =>
    intro hf
    rw [fold?_self hg hf, Option.getD_some]

end Pointer

-- The members of a schema for lists whose items are all alike, with whole numbers for both bounds.
structure DeclaresBounds (members inner : Dict Json) (least most : Nat) : Prop where
  reference : Reference.text? members = none
  typed : members.get? "type" = some "array" ∨
    ∃ names : List String, members.get? "type" = some (.arr (names.map .str)) ∧ "array" ∈ names
  properties : members.get? "properties" = none
  extra : members.get? "additionalProperties" = none
  items : members.get? "items" = some (.obj inner)
  plain : inner.get? "$ref" = none
  minItems : ∃ x, members.get? "minItems" = some (.num x) ∧ x.whole? = some (least : Int)
  maxItems : ∃ x, members.get? "maxItems" = some (.num x) ∧ x.whole? = some (most : Int)

section Compiled

variable {members members' inner : Dict Json} {least most : Nat} {root compiled value : Json} {c : Context}
  {expand : Json → String → String → List Reference.Enclosing → Reference.Inliner Json} {source location key : String}
  {around : List Reference.Enclosing} {refs refs' : RecursionMap} {s : Reference.Site}

namespace Reference

theorem get?_num_inlineMembers {x : Number} (hk : isDefinitions key = false) (hv : isVerbatim key = false)
    (hg : members.get? key = some (.num x))
    (h : inlineMembers root expand members source location around refs = some (members', refs')) :
    Dict.get? members' key = some (.num x) := by
  obtain ⟨value', hg', hi⟩ := get?_inlineMembers hk hg h
  simp only [Inlined, hv, Bool.false_eq_true, if_false] at hi
  obtain ⟨_, _, hi⟩ := hi
  obtain ⟨rfl, _⟩ := Prod.mk.inj (Option.some.inj hi)
  exact hg'

theorem get?_obj_inlineMembers (hk : isDefinitions key = false) (hv : isVerbatim key = false)
    (hg : members.get? key = some (.obj inner)) (ht : text? inner = none)
    (h : inlineMembers root expand members source location around refs = some (members', refs')) :
    ∃ inner' source location around refs refs', Dict.get? members' key = some (.obj inner') ∧
      inlineMembers root expand inner source location around refs = some (inner', refs') := by
  obtain ⟨value', hg', hi⟩ := get?_inlineMembers hk hg h
  simp only [Inlined, hv, Bool.false_eq_true, if_false] at hi
  obtain ⟨_, _, hi⟩ := hi
  obtain ⟨inner', rfl, hm⟩ := inlineNode_obj ht hi
  exact ⟨inner', _, _, _, _, _, hg', hm⟩

theorem array_mem_typeNames (hb : DeclaresBounds members inner least most)
    (h : inlineMembers root expand members source location around refs = some (members', refs')) :
    "array" ∈ ControlKind.typeNames members' := by
  rcases hb.typed with ht | ⟨names, ht, hn⟩
  all_goals
    obtain ⟨value', hv, hi⟩ := get?_inlineMembers (by decide) ht h
    simp only [Inlined, show isVerbatim "type" = false by decide, Bool.false_eq_true, if_false, inlineNode] at hi
    obtain ⟨_, _, hi⟩ := hi
  case inl =>
    obtain ⟨rfl, _⟩ := Prod.mk.inj (Option.some.inj hi)
    simp [ControlKind.typeNames, hv]
  case inr =>
    obtain ⟨items, _, hitems, hi⟩ := bind_eq_some.mp hi
    rw [inlineItems_strings] at hitems
    cases hitems
    cases hi
    simp [ControlKind.typeNames, hv, List.filterMap_map, Function.comp_def, Json.string?, hn]

-- At the place of a member that is no reference stands this member and nothing else.
theorem Visits.node_eq (hv : Visits root (start root) s) (hr : root = .obj members) (ht : text? members = none)
    (hg : members.get? key = some (.obj inner)) (hi : text? inner = none) (hp : s.place.map Slot.token = [key]) :
    s.node = .obj inner := by
  subst hr
  rcases hv.cases_head with rfl | ⟨s₁, hs, hv⟩
  case inl => exact nomatch hp
  case inr =>
    cases hs
    case item hn _ => exact nomatch hn
    case follow hn ht' _ _ _ =>
      cases hn
      exact nomatch ht.symm.trans ht'
    case member hn _ _ _ hg' =>
      cases hn
      obtain ⟨rest, hplace⟩ := Visits.prefix_place hv
      rw [← hplace] at hp
      obtain ⟨rfl, hrest⟩ := List.cons.inj hp
      obtain rfl := List.map_eq_nil_iff.mp hrest
      obtain rfl := Option.some.inj (hg.symm.trans hg')
      rcases hv.cases_head with rfl | ⟨s₂, hs, hv⟩
      case inl => rfl
      case inr =>
        cases hs
        case item hn _ => exact nomatch hn
        case follow hn ht' _ _ _ =>
          cases hn
          exact nomatch hi.symm.trans ht'
        case member =>
          have hlong := (Visits.prefix_place hv).length_le
          rw [← hplace] at hlong
          exact absurd hlong (by simp [Site.member])

end Reference

namespace Builder

-- The place of a member of the root that is no reference is not noted.
theorem not_mem_schemaRefs (hd : (Json.obj members).Distinct) (ht : Reference.text? members = none)
    (hg : members.get? key = some (.obj inner)) (hi : Reference.text? inner = none)
    (hr : Context.empty.resolve? (.obj members) = some (compiled, c)) :
    (Pointer.compile [key], "") ∉ c.schemaRefs := by
  intro hm
  obtain ⟨_, _, hr', _, hn⟩ := Context.exists_resolve?_visits hd
  obtain ⟨rfl, rfl⟩ := Prod.mk.inj (Option.some.inj (hr.symm.trans hr'))
  have hl : Dict.has c.schemaRefs (Pointer.compile [key]) = true :=
    Dict.has_iff_mem_keys.mpr (List.mem_map_of_mem hm)
  obtain ⟨ancestor, hl⟩ := Option.isSome_iff_exists.mp hl
  obtain ⟨s, hv, ⟨_, ref, _, hnode, href, _⟩, hp⟩ := (hn.noted _ _ hl).resolve_left (by simp)
  rw [hv.node_eq rfl ht hg hi (Pointer.compile_injective hp)] at hnode
  cases hnode
  exact nomatch hi.symm.trans href

theorem ofSchema_ne_reference (h : members.get? "$ref" = none) : ControlKind.ofSchema (.obj members) ≠ .reference := by
  have hr : Dict.has members "$ref" = false := by rw [Dict.has, h]; rfl
  unfold ControlKind.ofSchema
  dsimp only
  split <;> [skip; split] <;> simp [hr]

theorem at?_items (hi : members.get? "items" = some (.obj inner)) : (Json.obj members).at? "/items" = some (.obj inner) := by
  have hf : (Json.obj members).follow? [.member "items"] = some (.obj inner) := by simp [Json.atSlot?, hi]
  have hp : Pointer.ofPath [.member "items"] = "/items" := by decide
  exact hp ▸ Json.at?_ofPath (by simp [Slot.Bounded]) (by rw [hp]; decide) hf

-- What is left of such a schema once references have been taken away.
structure ListRoot (compiled : Json) (c : Context) (least most : Nat) : Prop where
  kind : ControlKind.ofSchema compiled = .list
  items : ∃ inner, Dict.get? (schemaNode compiled) "items" = some (.obj inner)
  minItems : ∃ n, countOf? (schemaNode compiled) "minItems" = some n ∧ CountsAs least n
  maxItems : ∃ n, countOf? (schemaNode compiled) "maxItems" = some n ∧ CountsAs most n
  place : itemsPlace c "/items" = "/items"
  control : HasControl compiled "/items"

theorem listRoot_of_resolve? (hd : (Json.obj members).Distinct) (hb : DeclaresBounds members inner least most)
    (hr : Context.empty.resolve? (.obj members) = some (compiled, c)) : ListRoot compiled c least most := by
  have htext : Reference.text? inner = none := by rw [Reference.text?, hb.plain, Option.bind_none]
  have hnoted := not_mem_schemaRefs hd hb.reference hb.items htext hr
  obtain ⟨members', expand, refs, refs', rfl, hm⟩ := Context.resolve?_obj hb.reference hr
  obtain ⟨inner', _, _, _, _, _, hitems, hinner⟩ := Reference.get?_obj_inlineMembers (by decide) (by decide) hb.items htext hm
  have hbound {key : String} {bound : Nat} (hk : Reference.isDefinitions key = false) (hv : Reference.isVerbatim key = false)
      (hx : ∃ x, members.get? key = some (.num x) ∧ x.whole? = some (bound : Int)) :
      ∃ n, countOf? members' key = some n ∧ CountsAs bound n := by
    obtain ⟨x, hx, hw⟩ := hx
    exact countOf?_of_whole (Reference.get?_num_inlineMembers hk hv hx hm) hw
  refine ⟨?kind, ⟨inner', hitems⟩, hbound (by decide) (by decide) hb.minItems, hbound (by decide) (by decide) hb.maxItems,
    ?place, ⟨_, at?_items hitems, ofSchema_ne_reference (Reference.get?_inlineMembers_of_none hb.plain hinner)⟩⟩
  case kind =>
    have hp := Reference.get?_inlineMembers_of_none hb.properties hm
    have hx := Reference.get?_inlineMembers_of_none hb.extra hm
    simp [ControlKind.ofSchema, Dict.has, hp, hx, hitems, Reference.array_mem_typeNames hb hm]
  case place =>
    have hg : Pointer.Generic [] (Pointer.compile ["items"]) := by
      rw [Pointer.Generic]
      decide
    exact (Pointer.fold?_token (by decide) hg).mpr hnoted

end Builder

end Compiled

namespace Builder

variable {build : Site → Builder (Option Template)} {root schema : Json} {c c' : Context} {site : Site} {node inner : Dict Json}
  {rules : RuleBag} {generic place key templatePointer : String} {items : List Json} {o : Option Template} {t : Template}
  {fillDefaults : Bool} {least most slots minItems maxItems levels : Nat} {controls : List (Option Template)}

-- Where there is data, the control for a list is built from it.
theorem ofList_of_ofNode (hs : root.at? site.schemaPointer = some schema) (hk : ControlKind.ofSchema schema = .list)
    (hd : site.data.isNull = false) (h : ofNode root fillDefaults build site c = .ok (o, c')) :
    ∃ t, o = some t ∧ ofList build (schemaNode schema) (RuleBag.ofControl schema) (c.generic site.dataPointer) site
      (c.learn (c.generic site.dataPointer) (·.describe (schemaNode schema) .list site)) = .ok (t, c') := by
  simp only [ofNode, hs, hk, hd, Bool.false_and, Bool.false_eq_true, if_false] at h
  obtain ⟨_, _, hget, h⟩ := bind_eq_ok.mp h
  cases hget
  obtain ⟨_, _, hlearn, h⟩ := bind_eq_ok.mp h
  cases hlearn
  obtain ⟨t, _, hlist, h⟩ := bind_eq_ok.mp h
  cases h
  exact ⟨t, rfl, hlist⟩

-- The limit for lists whose schema sets no other one holds for those whose schema does, too.
theorem ofFurtherItems_of_ofList (hi : node.get? "items" = some (.obj inner)) (hmin : countOf? node "minItems" = some least)
    (hmax : countOf? node "maxItems" = some most) (hkmin : (c.optionsAt generic).minItems = none)
    (hkmax : (c.optionsAt generic).maxItems = none) (h : ofList build node rules generic site c = .ok (t, c')) :
    ∃ controls, t = .list controls rules ∧
      ofFurtherItems build generic site (site.data.items?.getD []) (site.schemaPointer ++ "/items") 0 least
        (min most defaultMaxItems) (c.learn generic (·.bound least (min most defaultMaxItems))) = .ok (controls, c') := by
  unfold ofList at h
  obtain ⟨_, _, hget, h⟩ := bind_eq_ok.mp h
  cases hget
  simp only [hmin, hmax, hkmin, hkmax, Option.getD_some, Option.getD_none, Nat.max_zero] at h
  obtain ⟨_, _, hlearn, h⟩ := bind_eq_ok.mp h
  cases hlearn
  simp only [hi, itemsSchema?] at h
  obtain ⟨_, _, hnil, h⟩ := bind_eq_ok.mp h
  cases hnil
  obtain ⟨controls, _, hfurther, h⟩ := bind_eq_ok.mp h
  cases h
  exact ⟨controls, rfl, hfurther⟩

-- The number of controls and where they come from, once the entry for all of them has been made.
theorem itemOf_ofFurtherItems (hb : Extends build)
    (h : ofFurtherItems build generic site items place slots minItems maxItems c = .ok (controls, c')) :
    let key := c.generic (generic ++ "/-")
    let recursive := key != generic ++ "/-"
    controls.length = min (max items.length (if recursive then 0 else slots + (minItems - slots))) maxItems - slots ∧
      ∃ c₁, repeated build key (itemsPlace c place) (site.templatePointer ++ "/controls/-") c = .ok ((), c₁) ∧
        ∀ i o, controls[i]? = some o → ItemOf build c₁ site (itemsPlace c place) items recursive key (slots + i) o := by
  intro key recursive
  unfold ofFurtherItems at h
  obtain ⟨_, _, hget, h⟩ := bind_eq_ok.mp h
  cases hget
  obtain ⟨_, c₁, hr, h⟩ := bind_eq_ok.mp h
  obtain ⟨_, _, hlearn, h⟩ := bind_eq_ok.mp h
  cases hlearn
  have ⟨hl, hitems⟩ := itemOf_ofItems hb h
  refine ⟨hl.trans ?_, c₁, hr, fun i o ho => .of_extendsTo .learn (hitems i o ho)⟩
  show min (max items.length (if recursive then 0 else slots + if recursive then 0 else minItems - slots)) maxItems - slots = _
  cases recursive <;> rfl

theorem isSome_of_hasControl (h : within root false levels site c = .ok (o, c')) (hc : HasControl root site.schemaPointer) :
    o.isSome := by
  have hk : Kept c (fun _ _ _ => True) c := ⟨⟨rfl, rfl, rfl⟩, fun _ _ _ => ⟨"", trivial⟩⟩
  exact ((gives_within (fun _ _ _ h => h) (fun _ _ _ => trivial)).ok hk h).2.isSome.mpr hc

-- An entry that is made for a place that has a control holds one.
theorem exists_libraryCopy? (hk : Dict.has c.library key = false) (hc : HasControl root place)
    (h : repeated (within root false levels) key place templatePointer c = .ok ((), c')) : ∃ t, c'.libraryCopy? key = some t := by
  rw [repeated_eq, hk] at h
  simp only [Bool.false_eq_true, if_false] at h
  split at h
  case h_1 t _ _ =>
    cases h
    exact ⟨t, by simp [libraryCopy?_setEntry]⟩
  case h_2 hm => exact absurd (isSome_of_hasControl hm hc) (by simp)
  case h_3 => contradiction

end Builder

namespace Context

variable {c : Context}

theorem optionsAt_learn {generic : String} {f : NodeOptions → NodeOptions} :
    (c.learn generic f).optionsAt generic = f (c.optionsAt generic) := by
  rw [optionsAt, learn, Dict.get?_insert, if_pos rfl, Option.getD_some]

theorem generic_empty : c.generic "" = "" := by
  have hf : Pointer.Folded c.dataRefs "" := by
    intro e _ hs
    refine Bool.eq_false_iff.mpr fun ha => ?_
    rw [Pointer.eq_of_isAncestor_empty ha, Pointer.not_isAncestor_empty] at hs
    contradiction
  have hp : Pointer.parse? "" = some [] := by decide
  have hg : Pointer.Generic c.arrays "" := by rw [Pointer.Generic, Pointer.toGeneric?_eq hp]; rfl
  rw [generic, Pointer.fold?_self hg hf, Option.getD_some]

-- The place of all items of the root is folded exactly if it is noted to repeat the root.
theorem generic_items : c.generic "/-" = "/-" ↔ ("/-", "") ∉ c.dataRefs := by
  have hg : Pointer.Generic c.arrays "/-" := by
    have hp : Pointer.parse? "/-" = some ["-"] := by decide
    have ht : Pointer.genericToken c.arrays [] "-" = "-" := by
      have hi : Pointer.index? "-" = none := by decide
      simp [Pointer.genericToken, hi]
    rw [Pointer.Generic, Pointer.toGeneric?_eq hp, Pointer.genericTokens, ht]
    rfl
  exact @Pointer.fold?_token _ _ "-" (by decide) hg

end Context

namespace Compilation

-- Whether it is noted that the items of the root repeat the root.
def ItemsRepeat (out : Compilation) : Prop := ("/-", "") ∈ out.context.dataRefs

instance {out : Compilation} : Decidable out.ItemsRepeat := inferInstanceAs (Decidable (_ ∈ _))

-- A control that is built from the schema of the items of the root and the item at a position.
def MadeFromItem (out : Compilation) (v : Json) (i : Nat) (t : Template) : Prop :=
  ∃ levels c₁ c₂, Builder.SameMaps out.context c₁ ∧
    Builder.within out.schema false levels ⟨"/items", v, "/" ++ toString i, "/controls/" ++ toString i⟩ c₁ = .ok (some t, c₂)

end Compilation

section List

open Builder

variable {members inner : Dict Json} {least most levels i : Nat} {items : List Json} {out : Compilation} {c₁ : Context}
  {recursive : Bool} {key : String} {o : Option Template}

-- A control for each item is built from it; one beyond the items of the data is a copy, if there is something to copy.
theorem madeFromItem_of_itemOf (hm : SameMaps out.context c₁) (hc : HasControl out.schema "/items")
    (ho : ItemOf (within out.schema false levels) c₁ ⟨"", .arr items, "", ""⟩ "/items" items recursive key i o)
    (hcopy : items.length ≤ i → recursive = false ∧ ∃ t, c₁.libraryCopy? key = some t) :
    ∃ t, o = some t ∧ ∀ v, items[i]? = some v → out.MadeFromItem v i t := by
  rcases Nat.lt_or_ge i items.length with hlt | hge
  case inl =>
    obtain ⟨c₂, c₃, hext, hbuilt⟩ := ho.built hlt
    obtain ⟨t, rfl⟩ := Option.isSome_iff_exists.mp (isSome_of_hasControl hbuilt hc)
    refine ⟨t, rfl, fun v hv => ⟨levels, c₂, c₃, ?_, ?_⟩⟩
    case refine_1 =>
      exact ⟨hext.schemaRefs.trans hm.schemaRefs, hext.dataRefs.trans hm.dataRefs, hext.arrays.trans hm.arrays⟩
    case refine_2 => simpa [itemSite, List.getD_eq_getElem?_getD, hv] using hbuilt
  case inr =>
    obtain ⟨c₂, hext, rfl⟩ := ho.copied hge
    obtain ⟨rfl, t, ht⟩ := hcopy hge
    exact ⟨t, hext.libraryCopy? ht, fun v hv => absurd (List.getElem?_eq_some_iff.mp hv).1 (Nat.not_lt.mpr hge)⟩

-- A list has a control for each of its items and as many more as `minItems` asks for, unless the items repeat it, but no
-- more than `maxItems` and than the limit for lists whose schema sets no other one.
theorem controls_of_bounds (hd : (Json.obj members).Distinct) (hb : DeclaresBounds members inner least most)
    (h : Compiles (.obj members) (.arr items) false out) : ∃ controls rules, out.template = some (.list controls rules) ∧
      controls.length = min (max items.length (if out.ItemsRepeat then 0 else least)) (min most defaultMaxItems) ∧
      ∀ i o, controls[i]? = some o → ∃ t, o = some t ∧ ∀ v, items[i]? = some v → out.MadeFromItem v i t := by
  obtain ⟨c, levels, hr, hbuild⟩ := h
  cases levels
  case zero => contradiction
  case succ levels =>
    have ⟨hkind, ⟨inner', hinner⟩, ⟨least', hmin, hleast⟩, ⟨most', hmax, hmost⟩, hplace, hcontrol⟩ := listRoot_of_resolve? hd hb hr
    have hext : c.ExtendsTo out.context := extends_within _ _ _ hbuild
    have hnode : ofNode out.schema false (within out.schema false levels) ⟨"", .arr items, "", ""⟩ c =
      .ok (out.template, out.context) := hbuild
    obtain ⟨t, ht, hlist⟩ := ofList_of_ofNode (by rfl) hkind (by rfl) hnode
    rw [Context.generic_empty] at hlist
    have hfresh : c.optionsAt "" = .empty := by
      rw [Context.optionsAt, Context.options_of_resolve? hr]
      rfl
    have hknown {node : Dict Json} {kind : ControlKind} {site : Site} :
        (c.learn "" (·.describe node kind site)).optionsAt "" = NodeOptions.describe node kind site .empty := by
      rw [Context.optionsAt_learn, hfresh]
    obtain ⟨controls, rfl, hfurther⟩ := ofFurtherItems_of_ofList hinner hmin hmax (by rw [hknown]; rfl) (by rw [hknown]; rfl) hlist
    obtain ⟨hlength, c₁, hrepeated, hcontrols⟩ := itemOf_ofFurtherItems extends_within hfurther
    generalize hc₂ : Context.learn (Context.learn c "" _) "" _ = c₂ at hlength hrepeated hcontrols
    have hext₂ : c.ExtendsTo c₂ := hc₂ ▸ Context.ExtendsTo.learn.trans .learn
    have hplace : itemsPlace c₂ ("" ++ "/items") = "/items" := by
      rw [itemsPlace, hext₂.schemaRefs]
      exact hplace
    have hrecursive : (c.generic "/-" != "/-") = decide out.ItemsRepeat := by
      have hn : out.ItemsRepeat ↔ c.generic "/-" ≠ "/-" := by
        rw [Ne, Context.generic_items, not_not, ← hext.dataRefs]
        rfl
      simp only [hn, bne, beq_eq_decide, decide_not]
    rw [hplace, hext₂.generic] at hrepeated
    simp only [hplace, hext₂.generic, show "" ++ "/-" = "/-" from rfl, hrecursive, Nat.zero_add, Nat.sub_zero] at hlength hcontrols
    refine ⟨controls, _, ht, ?length, fun i o ho => ?control⟩
    case length =>
      show controls.length = min (max items.length _) (min most 1000)
      have hlimit : defaultMaxItems = 1000 := rfl
      simp only [decide_eq_true_eq, hlimit] at hlength
      change controls.length = min (max items.length _) (min most' 1000) at hlength
      unfold CountsAs at hleast hmost
      split at hlength <;> split <;> first | contradiction | omega
    case control =>
      have hext₁ : c.ExtendsTo c₁ := hext₂.trans (extendsTo_repeated extends_within hrepeated)
      have hmaps : SameMaps out.context c₁ := ⟨hext₁.schemaRefs.trans hext.schemaRefs.symm,
        hext₁.dataRefs.trans hext.dataRefs.symm, hext₁.arrays.trans hext.arrays.symm⟩
      refine madeFromItem_of_itemOf hmaps hcontrol (hcontrols i o ho) fun hge => ⟨?_, ?_⟩
      case refine_1 =>
        have hlt := (List.getElem?_eq_some_iff.mp ho).1
        by_contra hr
        rw [hlength, if_pos (by simpa using hr)] at hlt
        have hi : i < max items.length 0 := (lt_min_iff.mp hlt).1
        omega
      case refine_2 =>
        have hnew : Dict.has c₂.library (c.generic "/-") = false := by
          have hl : c₂.library = [] := hc₂ ▸ Context.library_of_resolve? hr
          rw [hl]
          rfl
        exact exists_libraryCopy? hnew hcontrol hrepeated

-- The bounds are kept exactly if they allow for no more controls than a list whose schema sets no other limit has, and,
-- where the items are noted to repeat the list, ask for no more than there are items.
theorem controls_within_bounds_iff (hd : (Json.obj members).Distinct) (hb : DeclaresBounds members inner least most)
    (h : Compiles (.obj members) (.arr items) false out) : ∃ controls rules, out.template = some (.list controls rules) ∧
      (∀ o ∈ controls, o.isSome) ∧
      (∀ i v o, items[i]? = some v → controls[i]? = some o → ∃ t, o = some t ∧ out.MadeFromItem v i t) ∧
      controls.length = min (max items.length (if out.ItemsRepeat then 0 else least)) (min most defaultMaxItems) ∧
      (controls.length = min (max items.length least) most ↔ min (max items.length least) most ≤ defaultMaxItems ∧
        (out.ItemsRepeat → least ≤ items.length ∨ most ≤ items.length)) := by
  obtain ⟨controls, rules, ht, hlength, hcontrols⟩ := controls_of_bounds hd hb h
  refine ⟨controls, rules, ht, fun o ho => ?some, fun i v o hv ho => ?made, hlength, ?bounds⟩
  case some =>
    obtain ⟨i, ho⟩ := List.mem_iff_getElem?.mp ho
    obtain ⟨t, rfl, _⟩ := hcontrols i o ho
    rfl
  case made =>
    obtain ⟨t, rfl, hm⟩ := hcontrols i o ho
    exact ⟨t, rfl, hm v hv⟩
  case bounds =>
    rw [hlength]
    by_cases hr : out.ItemsRepeat
    case pos =>
      simp only [hr, if_true, true_implies]
      omega
    case neg =>
      simp only [hr, if_false, false_implies, and_true]
      omega

end List

-- Two names or three.
def fewNames : Dict Json :=
  [("type", "array"), ("items", .obj [("type", "string")]), ("minItems", .ofNat 2), ("maxItems", .ofNat 3)]

theorem controls_within_bounds_fewNames : ∃ out controls rules, Compiles (.obj fewNames) (.arr ["joan"]) false out ∧
    out.template = some (.list controls rules) ∧ controls.length = 2 ∧
    ∃ t, controls[0]? = some (some t) ∧ out.MadeFromItem "joan" 0 t := by
  have hc : (compile? (.obj fewNames) (.arr ["joan"]) false).map (·.context.dataRefs) = some [] := by decide
  obtain ⟨out, hout, hrefs⟩ := Option.map_eq_some_iff.mp hc
  have hd : (Json.obj fewNames).Distinct := by
    simp [fewNames, Json.Distinct, Json.DistinctMembers, Dict.keys, Json.ofNat, Json.ofInt]
  have hb : DeclaresBounds fewNames [("type", "string")] 2 3 :=
    ⟨rfl, .inl rfl, rfl, rfl, rfl, rfl, ⟨.int 2 (by decide), rfl, rfl⟩, ⟨.int 3 (by decide), rfl, rfl⟩⟩
  obtain ⟨controls, rules, ht, hsome, hmade, _, hlength⟩ := controls_within_bounds_iff hd hb (compiles_of_compile? hout)
  have hrepeat : ¬out.ItemsRepeat := by simp [Compilation.ItemsRepeat, hrefs]
  have hlength : controls.length = 2 := hlength.mpr ⟨by decide, fun hr => absurd hr hrepeat⟩
  have ho : controls[0]? = some controls[0] := List.getElem?_eq_getElem (by omega)
  obtain ⟨t, he, hm⟩ := hmade 0 "joan" _ rfl ho
  exact ⟨out, controls, rules, compiles_of_compile? hout, ht, hlength, t, ho.trans (congrArg some he), hm⟩

-- As many names as there may be, and one more than the limit for lists whose schema sets no other one.
def manyNames : Dict Json :=
  [("type", "array"), ("items", .obj [("type", "string")]), ("minItems", .ofNat 0), ("maxItems", .ofNat 1001)]

namespace Builder

variable {build : Site → Builder (Option Template)} {root schema : Json} {c : Context} {site : Site} {generic place key : String}
  {items : List Json} {fillDefaults recursive : Bool} {levels slots i minItems maxItems count : Nat}

theorem exists_bind {α β : Type} {m : Builder α} {f : α → Builder β} {a : α} {c₁ : Context} (hm : m c = .ok (a, c₁))
    (hf : ∃ r, f a c₁ = .ok r) : ∃ r, (m >>= f) c = .ok r := by
  obtain ⟨r, hf⟩ := hf
  exact ⟨r, bind_eq_ok.mpr ⟨a, c₁, hm, hf⟩⟩

theorem exists_bind_of {α β : Type} {m : Builder α} {f : α → Builder β} (hm : ∃ r, m c = .ok r)
    (hf : ∀ a c₁, ∃ r, f a c₁ = .ok r) : ∃ r, (m >>= f) c = .ok r := by
  obtain ⟨⟨a, c₁⟩, hm⟩ := hm
  exact exists_bind hm (hf a c₁)

theorem exists_within_leaf (hs : root.at? site.schemaPointer = some schema) (hk : ControlKind.ofSchema schema = .leaf) :
    ∃ r, within root fillDefaults (levels + 1) site c = .ok r := by
  show ∃ r, ofNode root fillDefaults (within root fillDefaults levels) site c = .ok r
  simp only [ofNode, hs, hk]
  exact ⟨_, rfl⟩

-- A list can be built if the schema of its items can be built with anything.
theorem exists_ofItems (hb : ∀ i c, ∃ r, build (itemSite site place items i) c = .ok r) :
    ∃ r, ofItems build site place items recursive key i count c = .ok r := by
  induction count generalizing i c
  case zero => exact ⟨_, rfl⟩
  case succ count hi =>
    have ⟨⟨o, c₁⟩, ho⟩ : ∃ r, ofItem build items recursive key (itemSite site place items i) i c = .ok r := by
      unfold ofItem
      split
      case isTrue => exact hb i c
      case isFalse => split <;> exact ⟨_, rfl⟩
    obtain ⟨⟨rest, c₂⟩, hrest⟩ : ∃ r, ofItems build site place items recursive key (i + 1) count c₁ = .ok r := hi
    exact exists_bind ho (exists_bind hrest ⟨_, rfl⟩)

theorem exists_ofFurtherItems (hb : ∀ site c', site.schemaPointer = itemsPlace c place → ∃ r, build site c' = .ok r) :
    ∃ r, ofFurtherItems build generic site items place slots minItems maxItems c = .ok r := by
  have ⟨c₁, hr⟩ : ∃ c₁, repeated build (c.generic (generic ++ "/-")) (itemsPlace c place)
      (site.templatePointer ++ "/controls/-") c = .ok ((), c₁) := by
    rw [repeated_eq]
    split
    case isTrue => exact ⟨c, rfl⟩
    case isFalse =>
      obtain ⟨⟨o, c₁⟩, h⟩ := hb ⟨itemsPlace c place, .null, _, _⟩ _ rfl
      rw [h]
      cases o <;> exact ⟨_, rfl⟩
  exact exists_bind rfl (exists_bind hr (exists_bind rfl (exists_ofItems fun i c' => hb _ c' rfl)))

theorem exists_within_list {node inner : Dict Json} (hs : root.at? site.schemaPointer = some (.obj node))
    (hk : ControlKind.ofSchema (.obj node) = .list) (hd : site.data.isNull = false) (hi : node.get? "items" = some (.obj inner))
    (hb : ∀ site' c', site'.schemaPointer = itemsPlace c (site.schemaPointer ++ "/items") →
      ∃ r, within root fillDefaults levels site' c' = .ok r) :
    ∃ r, within root fillDefaults (levels + 1) site c = .ok r := by
  show ∃ r, ofNode root fillDefaults (within root fillDefaults levels) site c = .ok r
  simp only [ofNode, hs, hk, hd, Bool.false_and, Bool.false_eq_true, if_false]
  refine exists_bind rfl (exists_bind rfl (exists_bind_of ?_ fun _ _ => ⟨_, rfl⟩))
  simp only [ofList, schemaNode, Json.members?, Option.getD_some, hi, itemsSchema?]
  exact exists_bind rfl (exists_bind rfl (exists_bind rfl (exists_bind_of (exists_ofFurtherItems hb) fun _ _ => ⟨_, rfl⟩)))

end Builder

theorem resolve?_manyNames :
    Context.empty.resolve? (.obj manyNames) = some (.obj manyNames, { Context.empty with arrays := [("", 0)] }) := by
  with_unfolding_all rfl

theorem compiles_manyNames (items : List Json) : ∃ out, Compiles (.obj manyNames) (.arr items) false out := by
  have hleaf : ∀ site c', site.schemaPointer = "/items" → ∃ r, Builder.within (.obj manyNames) false 1 site c' = .ok r := by
    intro site c' hp
    have hs : (Json.obj manyNames).at? site.schemaPointer = some (.obj [("type", "string")]) := by
      rw [hp]
      exact Builder.at?_items rfl
    exact Builder.exists_within_leaf hs rfl
  have hplace : Builder.itemsPlace { Context.empty with arrays := [("", 0)] } "/items" = "/items" := by decide
  obtain ⟨⟨template, context⟩, hb⟩ : ∃ r, Builder.within (.obj manyNames) false 2 ⟨"", .arr items, "", ""⟩
      { Context.empty with arrays := [("", 0)] } = .ok r := by
    exact Builder.exists_within_list rfl rfl rfl rfl fun site c' hp => hleaf site c' (hp.trans hplace)
  exact ⟨⟨template, .obj manyNames, context⟩, _, 2, resolve?_manyNames, hb⟩

-- The last of 1001 names has no control, although there may be as many.
theorem manyNames_are_cut : ∃ out controls rules, DeclaresBounds manyNames [("type", "string")] 0 1001 ∧
    Compiles (.obj manyNames) (.arr (List.replicate 1001 "joan")) false out ∧ out.template = some (.list controls rules) ∧
      controls.length ≠ min (max (List.replicate 1001 (Json.str "joan")).length 0) 1001 := by
  obtain ⟨out, hout⟩ := compiles_manyNames (List.replicate 1001 "joan")
  have hd : (Json.obj manyNames).Distinct := by
    simp [manyNames, Json.Distinct, Json.DistinctMembers, Dict.keys, Json.ofNat, Json.ofInt]
  have hb : DeclaresBounds manyNames [("type", "string")] 0 1001 :=
    ⟨rfl, .inl rfl, rfl, rfl, rfl, rfl, ⟨.int 0 (by decide), rfl, rfl⟩, ⟨.int 1001 (by decide), rfl, rfl⟩⟩
  obtain ⟨controls, rules, ht, hlength, _⟩ := controls_of_bounds hd hb hout
  refine ⟨out, controls, rules, hb, hout, ht, ?_⟩
  have hlimit : Builder.defaultMaxItems = 1000 := rfl
  rw [hlength, List.length_replicate, hlimit]
  split <;> decide

-- What is said of further items counts for nothing beside one schema for all items, but is noted of their place.
theorem additionalItems_repeat : ∃ out, Compiles (.obj (fewNames ++ [("additionalItems", .obj [("$ref", "#")])])) (.arr []) false out ∧
    out.ItemsRepeat := by
  have hc : (compile? (.obj (fewNames ++ [("additionalItems", .obj [("$ref", "#")])])) (.arr []) false).map
      (fun out => decide out.ItemsRepeat) = some true := by decide +kernel
  obtain ⟨out, hout, hr⟩ := Option.map_eq_some_iff.mp hc
  exact ⟨out, compiles_of_compile? hout, of_decide_eq_true hr⟩

end FormModel
