import FormModel.Proofs.Build.Outcome
import FormModel.Proofs.Reference.Members

/-!
The controls of a group.  Every declared property that is left of the schema once references have been
taken away gets a control under its name, in the order of the declarations; what the way through the
schema takes for definitions is not left.
-/

namespace FormModel

namespace Template

variable {t : Template} {names : List String}

-- The names of the controls of a group.
def controlNames? : Template → Option (List String)
  | group controls _ => some (Dict.keys controls)
  | _ => none

theorem controlNames?_eq_some : t.controlNames? = some names ↔
    ∃ controls rules, t = .group controls rules ∧ Dict.keys controls = names := by
  cases t <;> simp [controlNames?]

theorem controlNames?_updateAt? {name : String} {f : Template → Template} {t' : Template}
    (h : t.controlNames? = some names) (hu : t.updateAt? [name] f = some t') : t'.controlNames? = some names := by
  obtain ⟨controls, rules, rfl, rfl⟩ := controlNames?_eq_some.mp h
  obtain ⟨child, hc, hu⟩ := Option.bind_eq_some_iff.mp hu
  obtain ⟨child', _, hu⟩ := Option.bind_eq_some_iff.mp hu
  obtain rfl := Option.some.inj hu
  have hk : Dict.has controls name := by
    simp only [child?] at hc
    cases hg : Dict.get? controls name
    case none => simp [hg] at hc
    case some => simp [Dict.has, hg]
  exact congrArg some (Dict.keys_insert_of_has _ hk)

theorem controlNames?_requireChildren {required : List String} (h : t.controlNames? = some names) :
    (t.requireChildren required).controlNames? = some names := by
  unfold requireChildren
  induction required generalizing t
  case nil => exact h
  case cons name required hi =>
    have hn : ((t.updateAt? [name] require).getD t).controlNames? = some names := by
      cases hu : t.updateAt? [name] require
      case none => exact h
      case some => exact controlNames?_updateAt? h hu
    exact hi hn

end Template

namespace Builder

variable {root schema data : Json} {build : Site → Builder (Option Template)} {node : Dict Json} {site child : Site}
  {names : List String} {controls controls' : Dict (Option Template)} {c c' : Context} {name : String}
  {template : Option Template} {levels : Nat} {fillDefaults : Bool}

-- A name after others, unless it is one of them.
def addNew (names : List String) (name : String) : List String := if names.contains name then names else names ++ [name]

theorem addNew_of_mem (h : name ∈ names) : addNew names name = names := if_pos (List.contains_iff_mem.mpr h)

theorem addNew_of_not_mem (h : name ∉ names) : addNew names name = names ++ [name] :=
  if_neg fun hc => h (List.contains_iff_mem.mp hc)

theorem foldl_addNew_of_nodup {seen : List String} (h : (seen ++ names).Nodup) : names.foldl addNew seen = seen ++ names := by
  induction names generalizing seen
  case nil => exact (List.append_nil _).symm
  case cons name names hi =>
    have hnew : name ∉ seen := fun hm => (List.nodup_append.mp h).2.2 name hm name List.mem_cons_self rfl
    rw [List.foldl_cons, addNew_of_not_mem hnew, hi (by simpa using h), List.append_assoc, List.singleton_append]

theorem keys_insert {control : Option Template} : (controls.insert name control).keys = addNew controls.keys name := by
  cases hh : controls.has name
  case true => rw [Dict.keys_insert_of_has _ hh, addNew_of_mem (Dict.mem_keys_of_has hh)]
  case false => rw [Dict.keys_insert_of_not_has _ hh, addNew_of_not_mem (Dict.has_eq_false.mp hh)]

-- Whether a name is declared or permitted, so that there is a place for it in a group.
def admits (node : Dict Json) (name : String) : Bool := (declaredNames node).contains name || permitsExtra node

theorem propertySite?_eq_none : propertySite? node site name = none ↔ admits node name = false := by
  unfold propertySite? admits
  cases (declaredNames node).contains name <;> cases permitsExtra node <;> simp

-- The controls stand in the order in which the names have been mentioned first.
theorem keys_ofProperties (h : ofProperties root build node site names controls c = .ok (controls', c')) :
    controls'.keys = (names.filter (admits node)).foldl addNew controls.keys := by
  induction names generalizing controls c
  case nil =>
    obtain ⟨rfl, _⟩ := Prod.mk.inj (Except.ok.inj h)
    rfl
  case cons name names hi =>
    cases hc : propertySite? node site name <;> rw [ofProperties, hc] at h
    case none =>
      rw [List.filter_cons_of_neg (Bool.eq_false_iff.mp (propertySite?_eq_none.mp hc))]
      exact hi h
    case some =>
      have hp : admits node name = true := by
        rw [← Bool.not_eq_false, ← propertySite?_eq_none.not, hc]
        exact nofun
      rw [List.filter_cons_of_pos hp, List.foldl_cons]
      obtain ⟨control, c₁, _, h⟩ := bind_eq_ok.mp h
      split at h
      case isTrue => exact keys_insert ▸ hi h
      case isFalse =>
        obtain ⟨control, c₂, _, h⟩ := bind_eq_ok.mp h
        exact keys_insert ▸ hi h

-- The data that the control of a node is built from: a default stands for data that is missing, if such are to be filled in.
def nodeData (fillDefaults : Bool) (schema data : Json) : Json :=
  if data.isNull && fillDefaults then ((schemaNode schema).get? "default").getD data else data

-- Building a group goes through its names, and what is required afterwards leaves their controls where they are.
theorem controlNames?_ofNode (hs : root.at? site.schemaPointer = some schema) (hg : ControlKind.ofSchema schema = .group)
    (h : ofNode root fillDefaults build site c = .ok (template, c')) : template.bind Template.controlNames? =
      some (((propertyOrder (schemaNode schema) (nodeData fillDefaults schema site.data)).filter
        (admits (schemaNode schema))).foldl addNew []) := by
  simp only [ofNode, hs, hg] at h
  obtain ⟨_, _, hget, h⟩ := bind_eq_ok.mp h
  cases hget
  obtain ⟨_, _, hlearn, h⟩ := bind_eq_ok.mp h
  cases hlearn
  obtain ⟨t, c₁, hgroup, hlast⟩ := bind_eq_ok.mp h
  rw [← (Prod.mk.inj (Except.ok.inj hlast)).1, Option.bind_some]
  dsimp only [ofGroup] at hgroup
  obtain ⟨controls, _, hc, hrules⟩ := bind_eq_ok.mp hgroup
  have ht : ((Template.group controls (RuleBag.ofControl schema)).requireFields schema).2.controlNames? =
      some controls.keys := Template.controlNames?_requireChildren rfl
  rw [keys_ofProperties hc] at ht
  cases hn : Template.requiredNames? schema <;> rw [hn] at hrules
  case none => exact (Prod.mk.inj (Except.ok.inj hrules)).1 ▸ ht
  case some =>
    obtain ⟨_, _, _, hrules⟩ := bind_eq_ok.mp hrules
    exact (Prod.mk.inj (Except.ok.inj hrules)).1 ▸ ht

theorem propertyOrder_eq (ho : node.get? "ui:order" = none) (hx : node.get? "additionalProperties" = none) :
    propertyOrder node data = declaredNames node := by
  simp [propertyOrder, permitsExtra, ho, hx]

-- A group whose order is left to its declarations has a control for each of them.
theorem controlNames?_of_declared (hs : root.at? site.schemaPointer = some schema)
    (hg : ControlKind.ofSchema schema = .group) (ho : (schemaNode schema).get? "ui:order" = none)
    (hx : (schemaNode schema).get? "additionalProperties" = none) (hd : (declaredNames (schemaNode schema)).Nodup)
    (h : ofNode root fillDefaults build site c = .ok (template, c')) :
    template.bind Template.controlNames? = some (declaredNames (schemaNode schema)) := by
  have hall : (declaredNames (schemaNode schema)).filter (admits (schemaNode schema)) = declaredNames (schemaNode schema) :=
    List.filter_eq_self.mpr fun name hm => by simp [admits, hm]
  rw [controlNames?_ofNode hs hg h, propertyOrder_eq ho hx, hall, foldl_addNew_of_nodup (by simpa using hd), List.nil_append]

end Builder

-- The members of a schema for objects that declares properties, and nothing more about which members
-- have controls.
structure DeclaresFields (members declared : List (String × Json)) : Prop where
  properties : Dict.get? members "properties" = some (.obj declared)
  distinct : (Dict.keys declared).Nodup
  -- A text in place of a schema, under the name of references, makes a reference of all of them.
  schemas : Reference.text? declared = none
  typed : Dict.get? members "type" = none ∨ Dict.get? members "type" = some "object" ∨
    ∃ names : List String, Dict.get? members "type" = some (.arr (names.map .str)) ∧ "object" ∈ names
  reference : Dict.get? members "$ref" = none
  order : Dict.get? members "ui:order" = none
  extra : Dict.get? members "additionalProperties" = none

namespace Reference

variable {root : Json} {expand : Json → String → String → List Enclosing → Inliner Json}
  {members members' declared : List (String × Json)} {source location : String} {around : List Enclosing}
  {refs refs' : RecursionMap}

theorem typeNames_inlineMembers (hf : DeclaresFields members declared)
    (h : inlineMembers root expand members source location around refs = some (members', refs')) :
    ControlKind.typeNames members' = [] ∨ "object" ∈ ControlKind.typeNames members' := by
  rcases hf.typed with ht | ht | ⟨names, ht, hn⟩
  case inl => exact .inl (by rw [ControlKind.typeNames, get?_inlineMembers_of_none ht h])
  case inr.inl =>
    obtain ⟨value', hv, hi⟩ := get?_inlineMembers (by decide) ht h
    simp only [Inlined, show isVerbatim "type" = false by decide, Bool.false_eq_true, if_false] at hi
    obtain ⟨_, _, hi⟩ := hi
    obtain ⟨rfl, _⟩ := Prod.mk.inj (Option.some.inj hi)
    exact .inr (by simp [ControlKind.typeNames, hv])
  case inr.inr =>
    obtain ⟨value', hv, hi⟩ := get?_inlineMembers (by decide) ht h
    simp only [Inlined, show isVerbatim "type" = false by decide, Bool.false_eq_true, if_false, inlineNode] at hi
    obtain ⟨_, _, hi⟩ := hi
    obtain ⟨items, _, hitems, hi⟩ := bind_eq_some.mp hi
    rw [inlineItems_strings] at hitems
    cases hitems
    cases hi
    refine .inr ?_
    simp [ControlKind.typeNames, hv, List.filterMap_map, Function.comp_def, Json.string?, hn]

theorem declaredNames_inlineMembers (hf : DeclaresFields members declared)
    (h : inlineMembers root expand members source location around refs = some (members', refs')) :
    ∃ declared', Dict.get? members' "properties" = some (.obj declared') ∧
      Dict.keys declared' = (Dict.keys declared).filter fun name => !isDefinitions name := by
  obtain ⟨value', hv, hi⟩ := get?_inlineMembers (by decide) hf.properties h
  simp only [Inlined, show isVerbatim "properties" = false by decide, Bool.false_eq_true, if_false] at hi
  obtain ⟨_, _, hi⟩ := hi
  obtain ⟨declared', he, hd⟩ := inlineNode_obj hf.schemas hi
  exact ⟨declared', he ▸ hv, keys_inlineMembers hd⟩

end Reference

theorem ControlKind.ofSchema_eq_group {members : List (String × Json)}
    (ht : typeNames members = [] ∨ "object" ∈ typeNames members) (hp : Dict.has members "properties") :
    ofSchema (.obj members) = .group := by
  rcases ht with ht | ht <;> simp [ofSchema, ht, hp]

-- The controls are those of the declared properties whose names are not taken for definitions; all of them,
-- then, exactly if there is no such name.
theorem controls_of_declared {members declared : List (String × Json)} {data : Json} {fillDefaults : Bool}
    {out : Compilation} (hf : DeclaresFields members declared) (h : Compiles (.obj members) data fillDefaults out) :
    out.template.bind Template.controlNames? =
        some ((Dict.keys declared).filter fun name => !Reference.isDefinitions name) ∧
      (out.template.bind Template.controlNames? = some (Dict.keys declared) ↔
        ∀ name ∈ Dict.keys declared, Reference.isDefinitions name = false) := by
  obtain ⟨c, levels, hr, hb⟩ := h
  have htext : Reference.text? members = none := by rw [Reference.text?, hf.reference, Option.bind_none]
  obtain ⟨members', expand, refs, refs', hc, hm⟩ := Context.resolve?_obj htext hr
  have ⟨declared', hp, hk⟩ := Reference.declaredNames_inlineMembers hf hm
  have hn : Builder.declaredNames (Builder.schemaNode out.schema) =
      (Dict.keys declared).filter fun name => !Reference.isDefinitions name := by
    rw [hc, ← hk]
    simp [Builder.declaredNames, Builder.schemaNode, Json.members?, hp]
  have hs : out.schema.at? "" = some out.schema := rfl
  have hg : ControlKind.ofSchema out.schema = .group := by
    rw [hc]
    exact ControlKind.ofSchema_eq_group (Reference.typeNames_inlineMembers hf hm) (by simp [Dict.has, hp])
  have ho : (Builder.schemaNode out.schema).get? "ui:order" = none := by
    rw [hc]
    exact Reference.get?_inlineMembers_of_none hf.order hm
  have hx : (Builder.schemaNode out.schema).get? "additionalProperties" = none := by
    rw [hc]
    exact Reference.get?_inlineMembers_of_none hf.extra hm
  cases levels
  case zero => contradiction
  case succ levels =>
    have hb : Builder.ofNode out.schema fillDefaults (Builder.within out.schema fillDefaults levels)
      ⟨"", data, "", ""⟩ c = .ok (out.template, out.context) := hb
    have ht := hn ▸ Builder.controlNames?_of_declared hs hg ho hx (hn ▸ hf.distinct.filter _) hb
    refine ⟨ht, ?_⟩
    rw [ht, Option.some.injEq, List.filter_eq_self]
    simp only [Bool.not_eq_true']

-- Properties named like keywords.
def keywordFields : List (String × Json) :=
  [("default", .obj [("type", "string")]), ("properties", .obj [("items", .obj [])]), ("$ref", .obj [("$ref", "#")])]

theorem controls_of_keywordFields :
    (compile? (.obj [("type", "object"), ("properties", .obj keywordFields)]) .null false).bind
      (·.template.bind Template.controlNames?) = some ["default", "properties", "$ref"] := by
  have hf : DeclaresFields [("type", "object"), ("properties", .obj keywordFields)] keywordFields :=
    ⟨rfl, by decide, rfl, .inr (.inl rfl), rfl, rfl, rfl⟩
  have ⟨out, ho⟩ : ∃ out, compile? (.obj [("type", "object"), ("properties", .obj keywordFields)]) .null false = some out :=
    Option.isSome_iff_exists.mp (by decide +kernel)
  rw [ho, Option.bind_some]
  exact (controls_of_declared hf (compiles_of_compile? ho)).2.mpr (by decide)

-- A property under the name of definitions has no control.
theorem definitions_has_no_control : ∃ members declared out, DeclaresFields members declared ∧
    Compiles (.obj members) .null false out ∧
      out.template.bind Template.controlNames? ≠ some (Dict.keys declared) := by
  have hc : (compile? (.obj [("properties", .obj [("definitions", .obj [("type", "string")])])]) .null false).map
      (·.template.bind Template.controlNames?) = some (some []) := by decide
  have ⟨out, ho, hn⟩ := Option.map_eq_some_iff.mp hc
  refine ⟨_, [("definitions", .obj [("type", "string")])], out, ?_, compiles_of_compile? ho, by simp [hn, Dict.keys]⟩
  exact ⟨rfl, by decide, rfl, .inl rfl, rfl, rfl, rfl⟩

end FormModel
