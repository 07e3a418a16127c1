import FormModel.Proofs.Rule.Keyed

/-!
The rule of a control beside the rule of its schema.  A control has those rules that the keywords of the schema make by
themselves and that its types select, so the form turns down no value that the schema allows.
-/

namespace FormModel

variable {formats : FormatTable} {node : Dict Json} {schema x : Json} {key : String} {param : Json}
  {rules : List (Option Rule)} {types : List SchemaType} {type : SchemaType}

theorem Rule.keeps_all?_iff_tests : Rule.Keeps (Rule.all? rules) x ↔ ∀ test ∈ Rule.tests rules, test x = true := by
  rw [Rule.keeps_all?]
  constructor
  case mp =>
    intro h test ht
    obtain ⟨rule, hm, ht⟩ := Rule.mem_tests.mp ht
    obtain ⟨own, rfl, rfl⟩ := Option.map_eq_some_iff.mp ht
    exact h _ hm own rfl
  case mpr =>
    rintro h _ hm own rfl
    exact h own.isValid (Rule.mem_tests.mpr ⟨_, hm, rfl⟩)

namespace RuleBag

theorem ownKey_of_mem_typeKeys (h : key ∈ typeKeys type) : ownKey key = true := by
  have hall : ∀ type, ∀ key ∈ typeKeys type, ownKey key = true := fun type => by cases type <;> decide
  exact hall type key h

theorem ownKey_of_controlKey (h : controlKey types key = true) : ownKey key = true := by
  simp only [controlKey, List.contains_eq_mem, decide_eq_true_eq, List.mem_append, List.mem_flatMap] at h
  rcases h with ⟨_, _, h⟩ | h
  case inl => exact ownKey_of_mem_typeKeys h
  case inr => exact (by decide : ∀ key ∈ ["enum", "const"], ownKey key = true) key h

-- The exclusive limits of a schema are flags or numbers, if there are any.
def PlainLimits (schema : Json) : Prop :=
  ∀ key ∈ ["exclusiveMinimum", "exclusiveMaximum"], ∀ v, schema.member? key = some v → v.isBool = true ∨ v.isNum = true

-- A flag is no limit of its own for a control nor for a schema, and a number is one for both.
theorem keyRule?_controlKey (hl : PlainLimits (.obj node)) (hg : node.get? key = some param) (hc : controlKey types key = true) :
    keyRule? formats (controlKey types) (fun v => !v.isBool) node key param = ownRule? formats node key param := by
  rw [ownRule?_eq_keyRule?, keyRule?_of_allowed hc, keyRule?_of_allowed (ownKey_of_controlKey hc)]
  have hlimit : key = "exclusiveMinimum" ∨ key = "exclusiveMaximum" → (!param.isBool) = param.isNum := by
    intro hk
    have := hl key (by simpa using hk) param hg
    cases param <;> simp_all [Json.isBool, Json.isNum]
  by_cases hk : key = "exclusiveMinimum" ∨ key = "exclusiveMaximum"
  case pos => simp only [hlimit hk]
  case neg => simp only [hk, false_and]

-- A value keeps the rule of a control exactly if it keeps the rules of the keywords that the types select.
theorem keeps_ofControl_iff (hl : PlainLimits (.obj node)) : Rule.Keeps ((ofControl (.obj node)).rule? formats) x ↔
    ∀ key param own, controlKey (typesOf node) key = true → node.get? key = some param →
      ownRule? formats node key param = some own → own.isValid x = true := by
  rw [RuleBag.rule?, Rule.keeps_all?_iff_tests]
  constructor
  case mp =>
    intro h key param own hc hg ho
    refine h own.isValid (mem_tests_control.mpr ⟨key, ?_⟩)
    rw [keyTest?, hg, Option.bind_some, keyRule?_controlKey hl hg hc, ho, Option.map_some]
  case mpr =>
    intro h test ht
    obtain ⟨key, ht⟩ := mem_tests_control.mp ht
    obtain ⟨own, ho, rfl⟩ := Option.map_eq_some_iff.mp ht
    obtain ⟨param, hg, ho⟩ := Option.bind_eq_some_iff.mp ho
    cases hc : controlKey (typesOf node) key
    case false => simp [keyRule?, hc] at ho
    case true => exact h key param own hc hg (keyRule?_controlKey hl hg hc ▸ ho)

end RuleBag

-- A control whose schema, where it has a rule, admits a value admits it too.
theorem keeps_ofControl_of_keeps (formats : FormatTable) (hd : schema.Distinct)
    (hl : RuleBag.PlainLimits schema) (h : Rule.Keeps (schemaRule? formats schema) x) :
    Rule.Keeps ((RuleBag.ofControl schema).rule? formats) x := by
  cases schema
  case obj node =>
    have hown := ((keeps_schemaRule?_obj hd.1).mp h).1
    exact (RuleBag.keeps_ofControl_iff hl).mpr fun key param own _ hg ho => hown own ⟨key, param, hg, ho⟩
  all_goals exact nofun

-- Both types of the control select limits and lengths; the exclusive minimum is a flag and the exclusive maximum a number.
def limitedText : Json :=
  .obj [("type", .arr ["integer", "string"]), ("minimum", .ofInt 1), ("exclusiveMinimum", true),
    ("exclusiveMaximum", .ofInt 9), ("minLength", .ofInt 1),
    ("anyOf", .arr [.obj [("const", "5")], .obj [("const", "7")]])]

theorem keeps_ofControl_limitedText : limitedText.Distinct ∧ RuleBag.PlainLimits limitedText ∧
    Rule.Keeps (schemaRule? [] limitedText) "5" ∧
    ∃ rule, (RuleBag.ofControl limitedText).rule? [] = some rule ∧ rule.isValid "5" = true := by
  have hd : limitedText.Distinct := by
    simp [limitedText, Json.ofInt, Json.Distinct, Json.DistinctItems, Json.DistinctMembers, Dict.keys]
  have hl : RuleBag.PlainLimits limitedText := by
    simp only [RuleBag.PlainLimits, List.forall_mem_cons]
    exact ⟨fun v hv => .inl (Option.some.inj hv ▸ rfl), fun v hv => .inr (Option.some.inj hv ▸ rfl),
      fun _ h => (List.not_mem_nil h).elim⟩
  have hkept : ((schemaRule? [] limitedText).all (·.isValid "5")) = true := by decide
  have hkeeps : Rule.Keeps (schemaRule? [] limitedText) "5" := fun rule hr => by simpa [hr] using hkept
  have hsome : ((RuleBag.ofControl limitedText).rule? []).isSome = true := by decide
  obtain ⟨rule, hr⟩ := Option.isSome_iff_exists.mp hsome
  exact ⟨hd, hl, hkeeps, rule, hr, keeps_ofControl_of_keeps [] hd hl hkeeps rule hr⟩

end FormModel
