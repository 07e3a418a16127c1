import FormModel.Proofs.Json.Parts
import FormModel.Proofs.Rule.Leaf
import FormModel.Proofs.Rule.Meaning

/-!
What the rule of a schema says about empty values.  Its keywords and `not` let them pass, so it depends on how many of
the combined schemas do; where several schemas under `oneOf` let them pass, they are not exactly one.
-/

namespace FormModel

variable {formats : FormatTable} {schema s x : Json} {node : Dict Json} {key : String} {param : Json} {own rule : Rule}

namespace Json

theorem exists_items_of_mem_listed (h : s ∈ schema.listed key) :
    ∃ items, schema.atSlot? (.member key) = some (.arr items) ∧ s ∈ items := by
  rw [listed, member?_eq_atSlot?] at h
  cases hv : schema.atSlot? (.member key)
  case none => simp [hv] at h
  case some v =>
    cases v
    case arr items => exact ⟨items, rfl, by simpa [hv, items?] using h⟩
    all_goals simp [hv, items?] at h

theorem size_lt_of_mem_listed (h : s ∈ schema.listed key) : s.size < schema.size := by
  have ⟨_, hv, hs⟩ := exists_items_of_mem_listed h
  exact Nat.lt_trans (Nat.lt_succ_of_le (size_le_sizeItems hs)) (size_lt_of_atSlot? hv)

theorem mem_parts_of_mem_listed {part : Json} (h : s ∈ schema.listed key) (hp : part ∈ s.parts) :
    part ∈ schema.parts := by
  have ⟨_, hv, hs⟩ := exists_items_of_mem_listed h
  exact mem_parts_of_atSlot? hv (List.mem_cons_of_mem _ (mem_partsOfItems_iff.mpr ⟨s, hs, hp⟩))

theorem Distinct.of_mem_listed (hd : schema.Distinct) (h : s ∈ schema.listed key) : s.Distinct := by
  have ⟨_, hv, hs⟩ := exists_items_of_mem_listed h
  exact distinctItems_iff.mp (hd.atSlot hv) s hs

end Json

theorem RuleBag.exists_rule?_of_ownRule? (h : ownRule? formats node key param = some own) :
    ∃ k params, Keyword.isSchemaKeyword k = true ∧ k.rule? formats params = some own := by
  have ⟨params, hp, h⟩ := Option.bind_eq_some_iff.mp h
  have ⟨k, hk, h⟩ := Option.bind_eq_some_iff.mp h
  refine ⟨k, params, ?_, h⟩
  cases hs : k.isSchemaKeyword
  case true => rfl
  case false => simp [ownParams?, hk, hs, Option.filter] at hp

theorem OwnRule.isValid_of_isEmpty (h : OwnRule formats schema own) (hx : x.isEmpty = true) :
    own.isValid x = true := by
  obtain ⟨_, _, _, h⟩ := h
  have ⟨k, _, hs, h⟩ := RuleBag.exists_rule?_of_ownRule? h
  exact Rule.isValid_of_isEmpty (Rule.keyword?_of_rule? h) hs hx

-- Whether there is a rule of a schema and empty values pass it.  Of the schemas that it combines and that have rules,
-- they have to pass all under `allOf`, some under `anyOf` and one under `oneOf`.
def admitsEmpty (formats : FormatTable) (schema : Json) : Bool :=
  let isVoid (s : Json) : Bool := (schemaRule? formats s).isNone
  !isVoid schema && (schema.listed "allOf").attach.all (fun s => isVoid s.1 || admitsEmpty formats s.1) &&
    ((schema.listed "anyOf").all isVoid || (schema.listed "anyOf").attach.any fun s => admitsEmpty formats s.1) &&
    ((schema.listed "oneOf").all isVoid || (schema.listed "oneOf").attach.countP (fun s => admitsEmpty formats s.1) == 1)
termination_by schema.size
decreasing_by all_goals exact Json.size_lt_of_mem_listed s.2

theorem admitsEmpty_iff : admitsEmpty formats schema = true ↔ ¬ Void formats schema ∧
    (∀ s ∈ schema.listed "allOf", ¬ Void formats s → admitsEmpty formats s = true) ∧
    ((∀ s ∈ schema.listed "anyOf", Void formats s) ∨ ∃ s ∈ schema.listed "anyOf", admitsEmpty formats s = true) ∧
    ((∀ s ∈ schema.listed "oneOf", Void formats s) ∨ (schema.listed "oneOf").countP (admitsEmpty formats) = 1) := by
  rw [admitsEmpty]
  simp [Void, or_iff_not_imp_left, and_assoc, Option.isSome_iff_ne_none]

theorem admits_iff : admits formats schema x = true ↔
    ¬ Void formats schema ∧ Rule.Keeps (schemaRule? formats schema) x := by
  rw [admits, Void]
  cases schemaRule? formats schema <;> simp [Rule.Keeps]

theorem admits_of_void (h : Void formats schema) : admits formats schema x = admitsEmpty formats schema := by
  rw [Bool.eq_iff_iff, admits_iff, admitsEmpty_iff]
  simp [h]

-- On the schemas that are combined the two agree already.
theorem admits_obj_of_isEmpty (hd : (Dict.keys node).Nodup) (hx : x.isEmpty = true)
    (hi : ∀ key, ∀ s ∈ (Json.obj node).listed key, admits formats s x = admitsEmpty formats s) :
    admits formats (.obj node) x = admitsEmpty formats (.obj node) := by
  have hown : ∀ own, OwnRule formats (.obj node) own → own.isValid x = true := fun own h => h.isValid_of_isEmpty hx
  have hall : (∀ s ∈ (Json.obj node).listed "allOf", ¬ Void formats s → admits formats s x = true) ↔
      ∀ s ∈ (Json.obj node).listed "allOf", ¬ Void formats s → admitsEmpty formats s = true :=
    forall₂_congr fun s hs => by rw [hi _ s hs]
  have hany : (∃ s ∈ (Json.obj node).listed "anyOf", admits formats s x = true) ↔
      ∃ s ∈ (Json.obj node).listed "anyOf", admitsEmpty formats s = true :=
    exists_congr fun s => and_congr_right fun hs => by rw [hi _ s hs]
  have hone : ((Json.obj node).listed "oneOf").countP (admits formats · x) =
      ((Json.obj node).listed "oneOf").countP (admitsEmpty formats) :=
    List.countP_congr fun s hs => by rw [hi _ s hs]
  rw [Bool.eq_iff_iff, admits_iff, admitsEmpty_iff, keeps_schemaRule?_obj hd, hall, hany, hone]
  refine and_congr_right fun _ => ⟨fun ⟨_, hall, hany, hone, _⟩ => ⟨hall, hany, hone⟩, fun ⟨hall, hany, hone⟩ => ?_⟩
  exact ⟨hown, hall, hany, hone, fun _ _ _ => .inl hx⟩

theorem admits_of_isEmpty (hd : schema.Distinct) (hx : x.isEmpty = true) :
    admits formats schema x = admitsEmpty formats schema := by
  induction hn : schema.size using Nat.strongRecOn generalizing schema
  case ind n hi =>
    subst hn
    cases schema
    case obj node =>
      exact admits_obj_of_isEmpty hd.1 hx fun key s hs => hi _ (Json.size_lt_of_mem_listed hs) (hd.of_mem_listed hs) rfl
    all_goals exact admits_of_void rfl

-- The empty values are all treated alike, and only the numbers of schemas that let them pass decide.
theorem isValid_empty (formats : FormatTable) (hd : schema.Distinct) (hr : schemaRule? formats schema = some rule) :
    ∀ x ∈ ([.null, .str "", .arr [], .obj []] : List Json), rule.isValid x = admitsEmpty formats schema := by
  intro x hx
  have hempty : ∀ x ∈ ([.null, .str "", .arr [], .obj []] : List Json), x.isEmpty = true := by decide
  rw [← admits_of_isEmpty hd (hempty x hx), admits, hr, Option.any_some]

-- The second schema under `oneOf` lets no empty value pass, since both under its own `oneOf` do; the third has no rule.
def nestedChoice : Json :=
  .obj [("not", .obj [("type", "string")]), ("allOf", .arr [.obj [("oneOf", .arr [.obj [("type", "string")],
    .obj [("oneOf", .arr [.obj [("const", "a")], .obj [("enum", .arr ["b"])]])], .obj [("title", "any")]])]])]

theorem isValid_empty_nestedChoice : nestedChoice.Distinct ∧ ∃ rule, schemaRule? [] nestedChoice = some rule ∧
    ∀ x ∈ ([.null, .str "", .arr [], .obj []] : List Json), rule.isValid x = true := by
  have hd : nestedChoice.Distinct := by
    simp [nestedChoice, Json.Distinct, Json.DistinctItems, Json.DistinctMembers, Dict.keys]
  have hnull : admits [] nestedChoice .null = true := by decide
  obtain ⟨rule, hr, _⟩ := (Option.any_eq_true ..).mp hnull
  rw [admits_of_isEmpty hd rfl] at hnull
  exact ⟨hd, rule, hr, fun x hx => (isValid_empty [] hd hr x hx).trans hnull⟩

-- Both schemas under `oneOf` let empty values pass, so not exactly one does.
def textOrNumber : Json := .obj [("oneOf", .arr [.obj [("type", "string")], .obj [("type", "number")]])]

theorem textOrNumber_refuses_empty : textOrNumber.Distinct ∧ ∃ rule, schemaRule? [] textOrNumber = some rule ∧
    ∀ x ∈ ([.null, .str "", .arr [], .obj []] : List Json), rule.isValid x = false := by
  have hd : textOrNumber.Distinct := by
    simp [textOrNumber, Json.Distinct, Json.DistinctItems, Json.DistinctMembers, Dict.keys]
  have hrefused : ((schemaRule? [] textOrNumber).any fun rule =>
      [.null, .str "", .arr [], .obj []].all fun x => !rule.isValid x) = true := by decide
  obtain ⟨rule, hr, hrefused⟩ := (Option.any_eq_true ..).mp hrefused
  rw [List.all_eq_true] at hrefused
  exact ⟨hd, rule, hr, fun x hx => by simpa using hrefused x hx⟩

-- Where one schema at most has a rule under every `oneOf`, empty values pass.
theorem admitsEmpty_of_countP_le (hone : ∀ part ∈ schema.parts, (part.listed "oneOf").countP
      (fun s => (schemaRule? formats s).isSome) ≤ 1) (hv : ¬ Void formats schema) : admitsEmpty formats schema = true := by
  induction hn : schema.size using Nat.strongRecOn generalizing schema
  case ind n hi =>
    subst hn
    have hruled : ∀ key, ∀ s ∈ schema.listed key, ¬ Void formats s → admitsEmpty formats s = true := fun key s hs hv =>
      hi _ (Json.size_lt_of_mem_listed hs) (fun part hp => hone part (Json.mem_parts_of_mem_listed hs hp)) hv rfl
    have hcount : (schema.listed "oneOf").countP (admitsEmpty formats) =
        (schema.listed "oneOf").countP fun s => (schemaRule? formats s).isSome :=
      List.countP_congr fun s hs => by
        rw [Option.isSome_iff_ne_none]
        exact ⟨fun ha => (admitsEmpty_iff.mp ha).1, hruled _ s hs⟩
    refine admitsEmpty_iff.mpr ⟨hv, hruled "allOf", or_iff_not_imp_left.mpr fun hsome => ?_,
      or_iff_not_imp_left.mpr fun hsome => ?_⟩
    all_goals
      push Not at hsome
      obtain ⟨s, hs, hv⟩ := hsome
    case refine_1 => exact ⟨s, hs, hruled _ s hs hv⟩
    case refine_2 =>
      have hpos := List.countP_pos_iff.mpr ⟨s, hs, hruled _ s hs hv⟩
      have hle := hone schema Json.mem_parts_self
      omega

end FormModel
