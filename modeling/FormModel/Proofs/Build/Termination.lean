import FormModel.Proofs.Build.Measure
import FormModel.Proofs.Reference.Ends
import Mathlib.Data.Finset.Lattice.Fold
import Mathlib.Data.Finset.Range
import Mathlib.Logic.Relation

/-!
When building comes to an end: exactly if there is an end of new entries of the library.  There is one if
every list whose items repeat an enclosing schema is noted as a repetition of the data too, wherever such a
list is come to without data.
-/

namespace FormModel

namespace Builder

open Pointer (Canonical)

variable {root schema : Json} {c c' e : Context} {site child start : Site} {levels : Nat}

-- Building ends exactly if there is an end of entries of the library.
theorem ends_iff (hp : Canonical site.schemaPointer) :
    (∃ levels r, within root false levels site c = .ok r) ↔
      ∃ bound, ∀ levels e, within root false levels site c = .error e → e.library.length ≤ bound := by
  constructor
  case mp =>
    intro ⟨levels, r, h⟩
    let count (l : Nat) : Nat := match within root false l site c with
      | .ok _ => 0
      | .error e => e.library.length
    refine ⟨(Finset.range levels).sup count, fun l e he => ?_⟩
    have hl : l < levels := by
      by_contra hl
      rw [within_mono h (Nat.le_of_not_lt hl)] at he
      contradiction
    have hc : count l = e.library.length := by simp [count, he]
    exact hc ▸ Finset.le_sup (Finset.mem_range.mpr hl)
  case mpr =>
    intro ⟨bound, hb⟩
    let levels := (bound + 1) * (site.data.weight + 1) * (root.depth + 2)
    cases h : within root false levels site c
    case ok r => exact ⟨levels, r, h⟩
    case error e =>
      let inv (site' : Site) (_ : Context) : Prop :=
        Canonical site'.schemaPointer ∧ site'.data.weight ≤ site.data.weight
      have hle : levels ≤ measure root e.library.keys site.data.weight site c := by
        refine levels_le_of_error inv (fun {s c₁ child c₂} hi hc hg => ?_) ⟨hp, Nat.le_refl _⟩ h
        have ⟨hc, hw, hlt⟩ := hc.decreases hi.1 hi.2 fun _ hk =>
          .inl (Dict.mem_keys_of_has (hg.library _ hk))
        exact ⟨⟨hc, hw⟩, hlt⟩
      have hlen : openKeys e.library.keys c ≤ bound := by
        refine Nat.le_trans unseen_le_length ?_
        rw [Dict.keys, List.length_map]
        exact hb levels e h
      exact absurd (measure_le (Nat.le_refl _) hlen) (Nat.not_lt.mpr hle)

-- The places that a place leads to, entered or opened.
def Leads (root : Json) (c : Context) (site child : Site) : Prop := Enters root c site child ∨ Opens root c site child

-- Wherever building may come without data to a list whose items repeat an enclosing schema, the place of
-- the items is one that repeats another place of the data.
def RepetitionsNoted (root : Json) (c : Context) (start : Site) : Prop :=
  ∀ {site schema maxItems place}, Relation.ReflTransGen (Leads root c) start site → site.data.isNull →
    root.at? site.schemaPointer = some schema → ControlKind.ofSchema schema = .list →
    itemsSchema? (schemaNode schema) site maxItems = some place → itemsPlace c place ≠ place →
    Dict.has c.dataRefs (c.generic site.dataPointer ++ "/-")

-- The keys under which repetitions are found in the library.
def repetitionKeys (root : Json) (c : Context) : List String :=
  root.parts.filterMap (fun schema => (referredPlace? schema).bind (referenceKey? root c)) ++
    (Dict.keys c.dataRefs).map c.generic

theorem length_repetitionKeys : (repetitionKeys root c).length ≤ root.size + c.dataRefs.length := by
  rw [repetitionKeys, List.length_append, List.length_map, Dict.keys, List.length_map]
  exact Nat.add_le_add_right (Nat.le_trans (List.length_filterMap_le ..) (Nat.le_of_eq (Json.length_parts root))) _

theorem itemsPlace_of_growsTo (h : c.GrowsTo c') : itemsPlace c' = itemsPlace c := by
  funext place
  rw [itemsPlace, itemsPlace, h.schemaRefs]

theorem Enters.of_growsTo (h : c.GrowsTo c') (he : Enters root c' site child) : Enters root c site child := by
  cases he
  case property hs hc => exact .property hs hc
  case referred hs hc hs' ht hd => exact .referred hs hc hs' ht hd
  case slot hs ht hi => exact .slot hs ht hi
  case item hs hp hl => exact itemsPlace_of_growsTo h ▸ .item hs hp hl

theorem Opens.of_growsTo (h : c.GrowsTo c') (ho : Opens root c' site child) : Opens root c site child := by
  have hg : c'.generic = c.generic := funext h.generic
  cases ho
  case reference hs hk ht hr => exact .reference hs hk ht (by rwa [referenceKey?, ← hg])
  case slot hs ht hi => exact hg ▸ .slot hs ht hi
  case items hs hl hp => exact hg ▸ itemsPlace_of_growsTo h ▸ .items hs hl hp

-- The key of every entry is one of those of repetitions, unless there is less of the data or of the schema.
theorem Opens.mem_repetitionKeys (hn : RepetitionsNoted root c start)
    (hr : Relation.ReflTransGen (Leads root c) start site) (hp : Canonical site.schemaPointer)
    (h : Opens root c site child) :
    child.dataPointer ∈ repetitionKeys root c ∨ 0 < site.data.weight ∨
      rank root child.schemaPointer < rank root site.schemaPointer := by
  cases h
  case reference schema target key hs _ ht hk =>
    have ⟨_, _, hs⟩ := Option.bind_eq_some_iff.mp hs
    refine .inl (List.mem_append_left _ (List.mem_filterMap.mpr ⟨schema, Json.mem_parts_of_getTokens? hs Json.mem_parts_self, ?_⟩))
    rw [ht, Option.bind_some, hk]
  case slot hs _ _ => exact .inr (.inr (below_slot hp hs).2)
  case items place hs hl hi =>
    by_cases hplace : itemsPlace c place = place
    case pos =>
      dsimp only
      rw [hplace]
      exact .inr (.inr (below_items hp hs hi).2)
    case neg =>
      cases hd : site.data.isNull
      case true =>
        have hk := Dict.mem_keys_of_has (hn hr hd hs hl hi hplace)
        exact .inl (List.mem_append_right _ (List.mem_map_of_mem hk))
      case false =>
        refine .inr (.inl ?_)
        rw [Json.weight, hd]
        exact Json.size_pos _

theorem ends_of_repetitionsNoted (hn : RepetitionsNoted root c start) (hp : Canonical start.schemaPointer)
    (hl : (root.size + c.dataRefs.length + 1) * (start.data.weight + 1) * (root.depth + 2) ≤ levels) :
    ∃ r, within root false levels start c = .ok r := by
  cases h : within root false levels start c
  case ok r => exact ⟨r, rfl⟩
  case error e =>
    let inv (site : Site) (c₁ : Context) : Prop := (Canonical site.schemaPointer ∧
      site.data.weight ≤ start.data.weight) ∧ Relation.ReflTransGen (Leads root c) start site ∧ c.GrowsTo c₁
    have hle : levels ≤ measure root (repetitionKeys root c) start.data.weight start c := by
      refine levels_le_of_error inv (fun {site c₁ child c₂} hi hc _ => ?_) ⟨⟨hp, Nat.le_refl _⟩, .refl, .refl⟩ h
      have ⟨⟨hp, hw⟩, hr, hg⟩ := hi
      have hlead : Leads root c site child := by
        cases hc
        case enter hc _ => exact .inl (hc.of_growsTo hg)
        case opened hc _ _ _ => exact .inr (hc.of_growsTo hg)
      have ⟨hp', hw', hlt⟩ := hc.decreases hp hw fun ho _ => (ho.of_growsTo hg).mem_repetitionKeys hn hr hp
      exact ⟨⟨⟨hp', hw'⟩, hr.tail hlead, hg.trans hc.growsTo⟩, hlt⟩
    have hlen : openKeys (repetitionKeys root c) c ≤ root.size + c.dataRefs.length :=
      Nat.le_trans unseen_le_length length_repetitionKeys
    exact absurd (Nat.lt_of_lt_of_le (measure_le (Nat.le_refl _) hlen) hl) (Nat.not_lt.mpr hle)

theorem le_enoughLevels {data : Json} :
    (root.size + c.dataRefs.length + 1) * (data.weight + 1) * (root.depth + 2) ≤ enoughLevels c root data := by
  have hd := Json.depth_le_size root
  have hw := Json.weight_le_size (j := data)
  unfold enoughLevels
  rw [Nat.mul_right_comm]
  exact Nat.mul_le_mul (Nat.mul_le_mul (by omega) (by omega)) (by omega)

end Builder

-- Taking references away always comes to an end, and building after it exactly if there is an end of entries
-- of the library; the levels allowed are enough if all repetitions are noted.
theorem compile_ends_iff (schema data : Json) : ∃ compiled c, Context.empty.resolve? schema = some (compiled, c) ∧
    ((∃ out, Compiles schema data false out) ↔
      ∃ bound, ∀ levels e, c.buildWithin false compiled data levels = .error e → e.library.length ≤ bound) ∧
    (Builder.RepetitionsNoted compiled c ⟨"", data, "", ""⟩ → ∃ out, compile? schema data false = some out) := by
  have ⟨compiled, c, hr⟩ := Context.empty.exists_resolve? schema
  refine ⟨compiled, c, hr, ?iff, fun hn => ?noted⟩
  case iff =>
    refine Iff.trans ⟨?_, ?_⟩ (Builder.ends_iff Pointer.canonical_empty)
    · intro ⟨out, c', levels, hr', hb⟩
      obtain ⟨rfl, rfl⟩ := Prod.mk.inj (Option.some.inj (hr.symm.trans hr'))
      exact ⟨levels, _, hb⟩
    · intro ⟨levels, ⟨template, c'⟩, hb⟩
      exact ⟨⟨template, compiled, c'⟩, c, levels, hr, hb⟩
  case noted =>
    have ⟨⟨template, c'⟩, hb⟩ := Builder.ends_of_repetitionsNoted hn Pointer.canonical_empty
      (Builder.le_enoughLevels (c := c))
    have hb : c.build? false compiled data = some (template, c') := by
      rw [Context.build?, Context.buildWithin, StateT.run, hb]
      rfl
    exact ⟨⟨template, compiled, c'⟩, by simp [compile?, hr, hb]⟩

-- A tree: a name and children that are trees.
def tree : Json :=
  .obj [("properties", .obj [("name", .obj [("type", "string")]),
    ("children", .obj [("type", "array"), ("items", .obj [("$ref", "#")])])])]

-- What is known of it before it is built.
def treeContext : Context :=
  { Context.empty with
    schemaRefs := [("/properties/children/items", "")]
    dataRefs := [("/children/-", "")]
    arrays := [("/children", 0)] }

theorem recordNode_tree : Reference.recordNode tree tree ""
    { Context.empty with schemaRefs := [("/properties/children/items", "")] } = treeContext := by
  have hroot : Pointer.dataLocation? tree "" = some "" := by decide
  have hlist : Pointer.dataLocation? tree "/properties/children" = some "/children" := by decide
  have hitems : Pointer.dataLocation? tree "/properties/children/items" = some "/children/-" := by decide +kernel
  have htarget : (Pointer.parse? "#").map Pointer.compile = some "" := by decide +kernel
  have hchild : Pointer.child "/properties" "children" = "/properties/children" := by decide
  show Reference.recordNode tree (.obj [("properties", .obj [("name", .obj [("type", "string")]),
    ("children", .obj [("type", "array"), ("items", .obj [("$ref", "#")])])])]) "" _ = _
  simp [Reference.recordNode, Reference.recordedKeywords, Reference.recordKeyword, Reference.text?,
    Reference.recordArray, Reference.recordProperties, Reference.recordReference, Reference.holdsList, Dict.get?,
    Dict.has, Dict.insertNew, Dict.insert, Json.string?, Json.items?, hroot, hlist, hitems, htarget, hchild,
    treeContext, Context.empty]

theorem resolve?_tree : Context.empty.resolve? tree = some (tree, treeContext) := by
  have hi : (Reference.inline tree (Reference.enoughLevels tree) tree "" "" []).run Context.empty.schemaRefs =
    some (tree, [("/properties/children/items", "")]) := by with_unfolding_all rfl
  simp [Context.resolve?, hi, ← recordNode_tree]

namespace Builder

variable {schema : Json} {site child : Site}

-- The places that building a tree without data comes to.
inductive InTree : Site → Prop
  | root {templatePointer} : InTree ⟨"", .null, "", templatePointer⟩
  | name {templatePointer} : InTree ⟨"/properties/name", .null, "/name", templatePointer⟩
  | children {templatePointer} : InTree ⟨"/properties/children", .null, "/children", templatePointer⟩

theorem at?_tree_name : tree.at? "/properties/name" = some (.obj [("type", "string")]) := by
  with_unfolding_all rfl

theorem at?_tree_children : tree.at? "/properties/children" =
    some (.obj [("type", "array"), ("items", .obj [("$ref", "#")])]) := by
  with_unfolding_all rfl

theorem InTree.data (hi : InTree site) : site.data = .null := by cases hi <;> rfl

-- Nothing in a tree is a tuple or a reference, and only the list of children has items.
theorem InTree.at? (hi : InTree site) (hs : tree.at? site.schemaPointer = some schema) :
    ControlKind.ofSchema schema ≠ .reference ∧ (∀ tuple, Dict.get? (schemaNode schema) "items" ≠ some (.arr tuple)) ∧
      (ControlKind.ofSchema schema = .list → site.schemaPointer = "/properties/children" ∧ site.dataPointer = "/children") := by
  cases hi
  case root =>
    have hs : tree = schema := Option.some.inj hs
    subst hs
    exact ⟨by decide, nofun, fun hl => absurd hl (by decide)⟩
  case name =>
    have hs := Option.some.inj (at?_tree_name.symm.trans hs)
    subst hs
    exact ⟨by decide, nofun, fun hl => absurd hl (by decide)⟩
  case children =>
    have hs := Option.some.inj (at?_tree_children.symm.trans hs)
    subst hs
    exact ⟨by decide, nofun, fun _ => ⟨rfl, rfl⟩⟩

theorem InTree.property {name : String} (hi : InTree site) (hs : tree.at? site.schemaPointer = some schema)
    (h : propertySite? (schemaNode schema) site name = some child) : InTree child := by
  cases hi
  case root templatePointer =>
    have hs : tree = schema := Option.some.inj hs
    subst hs
    have hn : declaredNames (schemaNode tree) = ["name", "children"] := rfl
    have hx : permitsExtra (schemaNode tree) = false := rfl
    by_cases hname : name = "name" ∨ name = "children"
    case pos =>
      rcases hname with rfl | rfl
      · have hc : propertySite? (schemaNode tree) ⟨"", .null, "", templatePointer⟩ "name" =
          some ⟨"/properties/name", .null, "/name", _⟩ := rfl
        exact Option.some.inj (hc.symm.trans h) ▸ .name
      · have hc : propertySite? (schemaNode tree) ⟨"", .null, "", templatePointer⟩ "children" =
          some ⟨"/properties/children", .null, "/children", _⟩ := rfl
        exact Option.some.inj (hc.symm.trans h) ▸ .children
    case neg => simp [propertySite?, hn, hx, hname] at h
  case name =>
    have hs := Option.some.inj (at?_tree_name.symm.trans hs)
    subst hs
    contradiction
  case children =>
    have hs := Option.some.inj (at?_tree_children.symm.trans hs)
    subst hs
    contradiction

theorem Leads.inTree (hi : InTree site) (h : Leads tree treeContext site child) : InTree child := by
  rcases h with h | h
  case inl =>
    cases h
    case property hs hc => exact hi.property hs hc
    case referred hs hc _ _ hd => simp [(hi.property hs hc).data, Json.isNull] at hd
    case slot hs ht _ => exact absurd ht ((hi.at? hs).2.1 _)
    case item hl => simp [hi.data, Json.items?] at hl
  case inr =>
    cases h
    case reference hs hk _ _ => exact absurd hk (hi.at? hs).1
    case slot hs ht _ => exact absurd ht ((hi.at? hs).2.1 _)
    case items place hs hl hp =>
      obtain ⟨hplace, hdata⟩ := (hi.at? hs).2.2 hl
      have hp : place = site.schemaPointer ++ "/items" := by
        unfold itemsSchema? at hp
        split at hp
        case h_1 ht => exact absurd ht ((hi.at? hs).2.1 _)
        case h_2 => exact (Option.some.inj hp).symm
        case h_3 => contradiction
      have he : itemsPlace treeContext ("/properties/children" ++ "/items") = "" := by decide
      have hk : treeContext.generic (treeContext.generic "/children" ++ "/-") = "" := by decide
      rw [hp, hplace, hdata, he, hk]
      exact .root

theorem repetitionsNoted_tree : RepetitionsNoted tree treeContext ⟨"", .null, "", ""⟩ := by
  intro site schema _ _ hr _ hs hl _ _
  have hi : InTree site := by
    clear * - hr
    induction hr
    case refl => exact .root
    case tail hl hi => exact hl.inTree hi
  rw [((hi.at? hs).2.2 hl).2]
  decide

end Builder

theorem tree_ends : ∃ out, compile? tree .null false = some out := by
  have ⟨_, _, hr, _, hends⟩ := compile_ends_iff tree .null
  rw [resolve?_tree] at hr
  obtain ⟨rfl, rfl⟩ := Prod.mk.inj (Option.some.inj hr)
  exact hends Builder.repetitionsNoted_tree

namespace Builder

open Pointer (Canonical)

variable {root schema : Json} {c : Context} {site : Site} {levels : Nat}

-- A schema whose members are lists of lists without end.  The schema of a member has no place in the data
-- of its own, so that nothing is noted of the repetition.
def nestedLists : Json :=
  .obj [("additionalProperties", .obj [("type", "array"), ("items", .obj [("$ref", "#/additionalProperties")])])]

-- What is known of it before it is built.
def nestedListsContext : Context :=
  { Context.empty with schemaRefs := [("/additionalProperties/items", "/additionalProperties")] }

-- The place of the items of the items, and so on, of a member.
def nestedPlace : Nat → String
  | 0 => "/a"
  | k + 1 => nestedPlace k ++ "/-"

theorem resolve?_nestedLists :
    Context.empty.resolve? nestedLists = some (nestedLists, nestedListsContext) := by with_unfolding_all rfl

theorem nestedPlace_eq {k : Nat} : nestedPlace k = Pointer.compile ("a" :: List.replicate k "-") := by
  induction k
  case zero => rfl
  case succ k hi =>
    rw [nestedPlace, hi, List.replicate_succ', ← List.cons_append, Pointer.compile_concat]
    exact Pointer.append_eq_child "-" (by decide)

theorem nestedPlace_injective {k l : Nat} (h : nestedPlace k = nestedPlace l) : k = l := by
  have ht := congrArg Pointer.parse? h
  rw [nestedPlace_eq, nestedPlace_eq, Pointer.parse?_compile (by simp), Pointer.parse?_compile (by simp)] at ht
  simpa using congrArg List.length (Option.some.inj ht)

-- Without repetitions of the data and without arrays every place stands for itself.
theorem generic_nestedPlace {k : Nat} (hd : c.dataRefs = []) (ha : c.arrays = []) :
    c.generic (nestedPlace k) = nestedPlace k := by
  have hp : Canonical (nestedPlace k) := nestedPlace_eq ▸ Pointer.canonical_compile (by simp)
  rw [Context.generic, hd, ha, Pointer.fold?, Pointer.toGeneric?_nil hp]
  simp [Pointer.foldPasses, Pointer.foldPass]

-- Where the library has no entry for the items of a list, the list ends only if building the entry does.
theorem items_end_of_list_ends {members : List (String × Json)} {r : Option Template × Context}
    (hs : root.at? site.schemaPointer = some schema) (hl : ControlKind.ofSchema schema = .list)
    (hm : Dict.get? (schemaNode schema) "items" = some (.obj members))
    (hk : Dict.has c.library (c.generic (c.generic site.dataPointer ++ "/-")) = false)
    (h : within root false (levels + 1) site c = .ok r) :
    ∃ c' r', c.GrowsTo c' ∧
      (∀ key, key ≠ c.generic (c.generic site.dataPointer ++ "/-") → Dict.has c'.library key = Dict.has c.library key) ∧
      within root false levels
        ⟨itemsPlace c (site.schemaPointer ++ "/items"), .null, c.generic (c.generic site.dataPointer ++ "/-"),
          site.templatePointer ++ "/controls/-"⟩ c' = .ok r' := by
  have hi : ∀ maxItems, itemsSchema? (schemaNode schema) site maxItems = some (site.schemaPointer ++ "/items") := by
    intro maxItems
    rw [itemsSchema?, hm]
  have ⟨t, c₁, hg₁, hlib₁, h⟩ : ∃ t c₁, c.GrowsTo c₁ ∧ c₁.library = c.library ∧
      ofList (within root false levels) (schemaNode schema) (RuleBag.ofControl schema) (c.generic site.dataPointer)
        site c₁ = .ok t := by
    simp only [within, ofNode, hs, Bool.and_false, Bool.false_eq_true, if_false, hl] at h
    obtain ⟨_, _, hget, h⟩ := bind_eq_ok.mp h
    cases hget
    obtain ⟨_, _, hlearn, h⟩ := bind_eq_ok.mp h
    cases hlearn
    obtain ⟨t, c₂, h, -⟩ := bind_eq_ok.mp h
    exact ⟨(t, c₂), _, .learn, rfl, h⟩
  have ⟨u, c₂, hg₂, hlib₂, h⟩ : ∃ u c₂, c₁.GrowsTo c₂ ∧ c₂.library = c₁.library ∧
      repeated (within root false levels) (c₂.generic (c.generic site.dataPointer ++ "/-"))
        (itemsPlace c₂ (site.schemaPointer ++ "/items")) (site.templatePointer ++ "/controls/-") c₂ = .ok u := by
    simp only [ofList, hm, hi] at h
    obtain ⟨_, _, hget, h⟩ := bind_eq_ok.mp h
    cases hget
    obtain ⟨_, _, hlearn, h⟩ := bind_eq_ok.mp h
    cases hlearn
    obtain ⟨_, _, hslots, h⟩ := bind_eq_ok.mp h
    cases hslots
    obtain ⟨_, _, h, -⟩ := bind_eq_ok.mp h
    obtain ⟨_, _, hget, h⟩ := bind_eq_ok.mp h
    cases hget
    obtain ⟨u, c₂, h, -⟩ := bind_eq_ok.mp h
    exact ⟨(u, c₂), _, .learn, rfl, h⟩
  have hg := hg₁.trans hg₂
  rw [hg.generic, itemsPlace_of_growsTo hg, repeated_eq, hlib₂, hlib₁, hk, if_neg (by simp)] at h
  split at h
  case h_3 => contradiction
  all_goals
    rename_i hr
    refine ⟨_, _, hg.trans .setEntry, fun key hne => ?_, hr⟩
    simp [Context.setEntry, Dict.has, Dict.get?_insert, hne.symm, hlib₂, hlib₁]

theorem nestedLists_endless {data : Json} {templatePointer : String} {k : Nat} (hg : nestedListsContext.GrowsTo c)
    (hk : ∀ l, k < l → Dict.has c.library (nestedPlace l) = false) (r : Option Template × Context) :
    within nestedLists false levels ⟨"/additionalProperties", data, nestedPlace k, templatePointer⟩ c ≠ .ok r := by
  induction levels generalizing data templatePointer k c r
  case zero => exact nofun
  case succ levels hi =>
    intro h
    have hs : nestedLists.at? "/additionalProperties" =
      some (.obj [("type", "array"), ("items", .obj [("$ref", "#/additionalProperties")])]) := rfl
    have hp : itemsPlace c ("/additionalProperties" ++ "/items") = "/additionalProperties" := by
      rw [itemsPlace_of_growsTo hg]
      rfl
    have hn : c.generic (c.generic (nestedPlace k) ++ "/-") = nestedPlace (k + 1) := by
      rw [generic_nestedPlace hg.dataRefs hg.arrays, ← nestedPlace, generic_nestedPlace hg.dataRefs hg.arrays]
    have ⟨c', r', hg', hlib, h⟩ := items_end_of_list_ends hs rfl rfl (hn ▸ hk (k + 1) (Nat.lt_succ_self k)) h
    rw [hp, hn] at h
    refine hi (hg.trans hg') (fun l hl => ?_) r' h
    rw [hlib _ (hn ▸ fun he => Nat.ne_of_gt hl (nestedPlace_injective he))]
    exact hk l (Nat.lt_of_succ_lt hl)

end Builder

-- A reference inside the schema of all members, and a member that is a list: there is no end.
theorem nestedLists_never_ends : ¬∃ out, Compiles Builder.nestedLists (.obj [("a", .arr [])]) false out := by
  intro ⟨⟨template, compiled, context⟩, c, levels, hr, h⟩
  obtain ⟨rfl, rfl⟩ := Prod.mk.inj (Option.some.inj (Builder.resolve?_nestedLists.symm.trans hr))
  cases levels
  case zero => contradiction
  case succ levels =>
    have hs : Builder.nestedLists.at? "" = some Builder.nestedLists := rfl
    have hg : ControlKind.ofSchema Builder.nestedLists = .group := rfl
    simp only [Context.buildWithin, StateT.run, Builder.within, Builder.ofNode, hs, hg] at h
    obtain ⟨_, _, hget, h⟩ := Builder.bind_eq_ok.mp h
    cases hget
    obtain ⟨_, _, hlearn, h⟩ := Builder.bind_eq_ok.mp h
    cases hlearn
    obtain ⟨_, _, h, -⟩ := Builder.bind_eq_ok.mp h
    obtain ⟨_, _, h, -⟩ := Builder.bind_eq_ok.mp h
    obtain ⟨control, c, h, -⟩ := Builder.bind_eq_ok.mp h
    exact Builder.nestedLists_endless (k := 0) .learn (fun _ _ => rfl) _ h

end FormModel
