import FormModel.Proofs.Dict
import FormModel.Proofs.Pointer.Path
import FormModel.Proofs.Rule.Combined
import FormModel.Rule.Schema

/-!
What the rule of a schema means.  A value keeps it if and only if it keeps the rules of the keywords, one by
one, and does what the combined schemas ask for; schemas without a rule count for nothing.
-/

namespace FormModel

namespace RuleBag

variable {formats : FormatTable} {node : Dict Json} {bag : RuleBag} {key : String} {param : Json} {own : Rule}

-- The parameters that a keyword of a node has as a rule by itself.  A limit goes with the flag of whether it is
-- strict, and a flag is no rule.
def ownParams? (node : Dict Json) (key : String) (param : Json) : Option (List Json) :=
  let strict (flag : String) : Json := .bool ((node.get? flag).any Json.isTrue)
  match (Keyword.ofName? key).filter Keyword.isSchemaKeyword with
  | none => none
  | some .minimum => some [param, strict "exclusiveMinimum"]
  | some .maximum => some [param, strict "exclusiveMaximum"]
  | some .exclusiveMinimum => if param.isNum then some [param] else none
  | some .exclusiveMaximum => if param.isNum then some [param] else none
  | some _ => some [param]

-- The rule of an entry of a bag.
def entryRule? (formats : FormatTable) (name : String) (params : List Json) : Option Rule :=
  (Keyword.ofName? name).bind fun k => k.rule? formats params

-- The rule that a keyword of a node makes by itself.
def ownRule? (formats : FormatTable) (node : Dict Json) (key : String) (param : Json) : Option Rule :=
  (ownParams? node key param).bind (entryRule? formats key)

theorem ofNode_eq (hd : (Dict.keys node).Nodup) :
    ofNode node = node.filterMap fun e => (ownParams? node e.1 e.2).map (e.1, ·) := by
  rw [← List.nil_append (List.filterMap ..), ← Dict.foldl_insert_eq hd fun _ _ => rfl, ofNode]
  congr 1
  funext bag ⟨key, param⟩
  dsimp only [ownParams?]
  rcases (Keyword.ofName? key).filter Keyword.isSchemaKeyword with _ | k
  case none => rfl
  case some =>
    cases k
    case exclusiveMinimum | exclusiveMaximum => cases param.isNum <;> rfl
    all_goals rfl

theorem rule?_ofNode (hd : (Dict.keys node).Nodup) : (ofNode node).rule? formats =
    Rule.all? (node.map fun e => ownRule? formats node e.1 e.2) := by
  refine Rule.all?_congr ?_
  rw [ofNode_eq hd, List.filterMap_map, List.filterMap_map, List.filterMap_filterMap]
  congr 1
  funext e
  simp only [ownRule?, Option.bind_map, Function.comp_def, id_eq]
  rfl

end RuleBag

-- The schemas in the list under a keyword of a schema.
def Json.listed (schema : Json) (key : String) : List Json := ((schema.member? key).bind items?).getD []

-- Whether a schema makes no rule.
def Void (formats : FormatTable) (schema : Json) : Prop := schemaRule? formats schema = none

-- Whether there is a rule of a schema and a value keeps it.
def admits (formats : FormatTable) (schema x : Json) : Bool := (schemaRule? formats schema).any (·.isValid x)

-- The rules that the keywords of a schema make by themselves.
def OwnRule (formats : FormatTable) (schema : Json) (own : Rule) : Prop :=
  let node := schema.members?.getD []
  ∃ key param, node.get? key = some param ∧ RuleBag.ownRule? formats node key param = some own

variable {formats : FormatTable} {schema x : Json} {node : Dict Json} {items : List Json} {key : String} {own rule : Rule}

theorem schemaRules_eq : schemaRules formats items = items.map (schemaRule? formats) := by
  induction items
  case nil => rfl
  case cons schema items hi => rw [schemaRules, hi, List.map_cons]

theorem combinationOf_eq (hd : (Dict.keys node).Nodup) : combinationOf formats node =
    { allOf := ((Json.obj node).listed "allOf").map (schemaRule? formats)
      anyOf := ((Json.obj node).listed "anyOf").map (schemaRule? formats)
      oneOf := ((Json.obj node).listed "oneOf").map (schemaRule? formats)
      not := ((Json.obj node).member? "not").bind (schemaRule? formats) } := by
  induction node
  case nil => rfl
  case cons e rest hi =>
    obtain ⟨key, value⟩ := e
    have ⟨hk, hd⟩ := List.nodup_cons.mp hd
    have hn : Dict.get? rest key = none := Dict.get?_eq_none.mpr hk
    unfold combinationOf
    rw [hi hd]
    simp only [Json.listed, Json.member?, Json.members?, Option.bind_some, Dict.get?]
    by_cases hc : key ∈ ["not", "allOf", "anyOf", "oneOf"]
    case neg =>
      simp only [List.mem_cons, List.not_mem_nil, or_false, not_or] at hc
      simp only [hc, if_false]
      split <;> rfl
    case pos =>
      simp only [List.mem_cons, List.not_mem_nil, or_false] at hc
      obtain rfl | rfl | rfl | rfl := hc
      · simp
      all_goals cases value <;> simp [hn, Json.items?, schemaRules_eq]

-- All rules that come out of schemas are combinations.
theorem opposed_schemaRule? (h : schemaRule? formats schema = some rule) : rule.Opposed := by
  cases schema
  case obj node => exact Rule.opposed_of_all? (by rwa [schemaRule?] at h)
  all_goals contradiction

theorem schemaRule?_obj (hd : (Dict.keys node).Nodup) : schemaRule? formats (.obj node) =
    Rule.all? [Rule.all? (node.map fun e => RuleBag.ownRule? formats node e.1 e.2),
      Rule.all? (((Json.obj node).listed "allOf").map (schemaRule? formats)),
      Rule.any? (((Json.obj node).listed "anyOf").map (schemaRule? formats)),
      Rule.one? (((Json.obj node).listed "oneOf").map (schemaRule? formats)),
      (((Json.obj node).member? "not").bind (schemaRule? formats)).map .not] := by
  rw [schemaRule?, combinationOf_eq hd, RuleBag.rule?_ofNode hd, Combination.rule?]

theorem forall_ownRule_iff (hd : (Dict.keys node).Nodup) {P : Rule → Prop} :
    (∀ own, OwnRule formats (.obj node) own → P own) ↔
      ∀ rule ∈ node.map (fun e => RuleBag.ownRule? formats node e.1 e.2), ∀ own, rule = some own → P own := by
  rw [List.forall_mem_map]
  constructor
  case mp => exact fun h e he own ho => h own ⟨e.1, e.2, Dict.get?_of_mem hd he, ho⟩
  case mpr =>
    rintro h own ⟨key, param, hg, ho⟩
    exact h _ (Dict.mem_of_get? hg) own ho

theorem void_obj_iff (hd : (Dict.keys node).Nodup) : Void formats (.obj node) ↔
    (∀ own, ¬ OwnRule formats (.obj node) own) ∧
      (∀ key ∈ ["allOf", "anyOf", "oneOf"], ∀ s ∈ (Json.obj node).listed key, Void formats s) ∧
      ∀ s, (Json.obj node).member? "not" = some s → Void formats s := by
  have ho := @forall_ownRule_iff formats node hd fun _ => False
  simp only [imp_false, ← Option.eq_none_iff_forall_ne_some] at ho
  rw [ho, Void, schemaRule?_obj hd, Rule.all?_eq_none]
  simp [Rule.all?_eq_none, Rule.any?_eq_none, Rule.one?_eq_none, Option.bind_eq_none_iff, Void, and_assoc]

theorem keeps_allOf_iff : Rule.Keeps (Rule.all? (items.map (schemaRule? formats))) x ↔
    ∀ s ∈ items, ¬ Void formats s → admits formats s x = true := by
  rw [Rule.keeps_all?, List.forall_mem_map]
  refine forall₂_congr fun s _ => ?_
  rw [Void, admits]
  cases schemaRule? formats s <;> simp [Rule.Keeps]

theorem keeps_anyOf_iff : Rule.Keeps (Rule.any? (items.map (schemaRule? formats))) x ↔
    (∀ s ∈ items, Void formats s) ∨ ∃ s ∈ items, admits formats s x = true := by
  simp [Rule.keeps_any?, Void, admits]

theorem keeps_oneOf_iff : Rule.Keeps (Rule.one? (items.map (schemaRule? formats))) x ↔
    (∀ s ∈ items, Void formats s) ∨ items.countP (admits formats · x) = 1 := by
  rw [Rule.keeps_one?, List.forall_mem_map, List.countP_map]
  rfl

theorem keeps_not_iff {negated : Option Json} :
    Rule.Keeps ((negated.bind (schemaRule? formats)).map .not) x ↔
      ∀ s, negated = some s → ¬ Void formats s → x.isEmpty = true ∨ admits formats s x = false := by
  have ho : ∀ r, negated.bind (schemaRule? formats) = some r → r.Opposed := by
    intro r hr
    have ⟨_, _, hr⟩ := Option.bind_eq_some_iff.mp hr
    exact opposed_schemaRule? hr
  rw [Rule.keeps_not ho]
  constructor
  case mp =>
    rintro h s rfl hv
    have ⟨r, hr⟩ := Option.ne_none_iff_exists'.mp hv
    simpa [admits, hr] using h r hr
  case mpr =>
    intro h r hr
    have ⟨s, hs, hr⟩ := Option.bind_eq_some_iff.mp hr
    simpa [admits, hr] using h s hs (by simp [Void, hr])

theorem keeps_schemaRule?_obj (hd : (Dict.keys node).Nodup) : Rule.Keeps (schemaRule? formats (.obj node)) x ↔
    (∀ own, OwnRule formats (.obj node) own → own.isValid x = true) ∧
      (∀ s ∈ (Json.obj node).listed "allOf", ¬ Void formats s → admits formats s x = true) ∧
      ((∀ s ∈ (Json.obj node).listed "anyOf", Void formats s) ∨
        ∃ s ∈ (Json.obj node).listed "anyOf", admits formats s x = true) ∧
      ((∀ s ∈ (Json.obj node).listed "oneOf", Void formats s) ∨
        ((Json.obj node).listed "oneOf").countP (admits formats · x) = 1) ∧
      ∀ s, (Json.obj node).member? "not" = some s → ¬ Void formats s → x.isEmpty = true ∨ admits formats s x = false := by
  rw [schemaRule?_obj hd, Rule.keeps_all?, forall_ownRule_iff hd]
  simp only [List.forall_mem_cons, keeps_allOf_iff, keeps_anyOf_iff, keeps_oneOf_iff, keeps_not_iff]
  rw [Rule.keeps_all?]
  simp [Rule.Keeps]

-- A value keeps the rule of a schema if it keeps the rules of the keywords, and of all schemas under `allOf`, of
-- some under `anyOf`, of one under `oneOf` and not of the one under `not`, of those that have rules.  There is a
-- rule unless none of them has one.
theorem schemaRule?_meaning (formats : FormatTable) {schema : Json} (hd : schema.Distinct) :
    (Void formats schema ↔ (∀ own, ¬ OwnRule formats schema own) ∧
      (∀ key ∈ ["allOf", "anyOf", "oneOf"], ∀ s ∈ schema.listed key, Void formats s) ∧
      ∀ s, schema.member? "not" = some s → Void formats s) ∧
    ∀ rule, schemaRule? formats schema = some rule → ∀ x, (rule.isValid x = true ↔
      (∀ own, OwnRule formats schema own → own.isValid x = true) ∧
      (∀ s ∈ schema.listed "allOf", ¬ Void formats s → admits formats s x = true) ∧
      ((∀ s ∈ schema.listed "anyOf", Void formats s) ∨ ∃ s ∈ schema.listed "anyOf", admits formats s x = true) ∧
      ((∀ s ∈ schema.listed "oneOf", Void formats s) ∨ (schema.listed "oneOf").countP (admits formats · x) = 1) ∧
      ∀ s, schema.member? "not" = some s → ¬ Void formats s → x.isEmpty = true ∨ admits formats s x = false) := by
  cases schema
  case obj node =>
    refine ⟨void_obj_iff hd.1, fun rule hr x => ?_⟩
    rw [← Rule.keeps_some, ← hr]
    exact keeps_schemaRule?_obj hd.1
  all_goals
    refine ⟨iff_of_true rfl ⟨fun _ => nofun, ?_, nofun⟩, nofun⟩
    intro _ _ s hs
    exact absurd hs List.not_mem_nil

-- Of the three schemas under `oneOf`, the first has no rule.
def nestedRules : Json :=
  .obj [("type", "string"), ("not", .obj [("not", .obj [("enum", .arr ["a", "b"])])]),
    ("oneOf", .arr [.obj [("title", "any")], .obj [("const", "a")], .obj [("anyOf", .arr [.obj [("const", "b")]])]])]

theorem distinct_nestedRules : nestedRules.Distinct := by
  simp [nestedRules, Json.Distinct, Json.DistinctItems, Json.DistinctMembers, Dict.keys]

theorem schemaRule?_meaning_nestedRules : nestedRules.Distinct ∧ ¬ Void [] nestedRules ∧
    ∀ rule, schemaRule? [] nestedRules = some rule → rule.isValid "a" = true ∧
      (nestedRules.listed "oneOf").countP (admits [] · "a") = 1 := by
  obtain ⟨hvoid, hmeaning⟩ := schemaRule?_meaning [] distinct_nestedRules
  have hc : ¬ Void [] (.obj [("const", "a")]) := by
    rw [Void, ← Option.isNone_iff_eq_none]
    decide
  refine ⟨distinct_nestedRules, fun hv => ?_, fun rule hr => ?_⟩
  · obtain ⟨_, hlists, _⟩ := hvoid.mp hv
    exact hc (hlists "oneOf" (by decide) _ (by simp [nestedRules, Json.listed, Json.member?, Json.members?, Json.items?, Dict.get?]))
  · have ha : admits [] nestedRules "a" = true := by decide
    rw [admits, hr, Option.any_some] at ha
    obtain ⟨_, _, _, hone, _⟩ := (hmeaning rule hr "a").mp ha
    refine ⟨ha, hone.resolve_left fun hv => hc (hv _ ?_)⟩
    simp [nestedRules, Json.listed, Json.member?, Json.members?, Json.items?, Dict.get?]

end FormModel
