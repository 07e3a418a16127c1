import FormModel.Proofs.Rule.Agree

/-!
Rules that judge a value by themselves.  Each keyword makes rules of its own kind, and what counts in a schema lets
empty values pass.
-/

namespace FormModel

namespace Rule

variable {r : Rule} {k : Keyword} {formats : FormatTable} {params : List Json} {param given x : Json} {l : Limit}
  {strict : Bool}

-- The keyword that a rule is made of, if it does not combine other rules.
def keyword? : Rule → Option Keyword
  | required => some .required
  | type _ _ => some .type
  | enum _ => some .enum
  | const _ => some .const
  | size l _ => Keyword.ofName? l.name
  | pattern _ _ => some .pattern
  | format _ _ => some .format
  | bounded l _ _ _ => Keyword.ofName? l.name
  | multipleOf _ _ => some .multipleOf
  | uniqueItems => some .uniqueItems
  | contains _ => some .contains
  | dependencies _ => some .dependencies
  | atLeast _ => some .min
  | atMost _ => some .max
  | requiredTrue => some .requiredTrue
  | email _ => some .email
  | anyOf _ | oneOf _ | allOf _ | not _ | custom _ => none

section Keyword

-- A keyword that makes its rule of a reading of its parameters.
theorem keyword?_of_map {α : Type} {reading : Option α} {f : α → Rule} (hf : ∀ a, (f a).keyword? = some k)
    (h : reading.map f = some r) : r.keyword? = some k := by
  have ⟨a, _, h⟩ := Option.map_eq_some_iff.mp h
  exact h ▸ hf a

theorem keyword?_of_bind {α : Type} {reading : Option α} {f : α → Option Rule}
    (hf : ∀ a, f a = some r → r.keyword? = some k) (h : reading.bind f = some r) : r.keyword? = some k := by
  have ⟨a, _, h⟩ := Option.bind_eq_some_iff.mp h
  exact hf a h

theorem keyword?_limitRule? (hl : Keyword.ofName? l.name = some k) (h : Keyword.limitRule? l strict given = some r) :
    r.keyword? = some k :=
  keyword?_of_map (f := fun bound => .bounded l strict bound given) (fun _ => hl) h

theorem keyword?_dependencyRule? (h : Keyword.dependencyRule? formats param = some r) :
    r.keyword? = some .dependencies := by
  cases param <;> simp only [Keyword.dependencyRule?, Option.ite_none_left_eq_some, reduceCtorEq] at h
  case obj => exact Option.some.inj h.2 ▸ rfl

theorem keyword?_of_rule? (h : k.rule? formats params = some r) : r.keyword? = some k := by
  cases k <;> simp only [Keyword.rule?, Keyword.ruleWith?, Keyword.patternRule?] at h
  case required | uniqueItems =>
    exact Option.some.inj (Option.ite_none_right_eq_some.mp h).2 ▸ rfl
  case type =>
    exact keyword?_of_bind (fun _ h => Option.some.inj (Option.ite_none_left_eq_some.mp h).2 ▸ rfl) h
  case pattern | format | multipleOf => exact keyword?_of_bind (fun _ => keyword?_of_map fun _ => rfl) h
  case minimum | maximum | exclusiveMinimum | exclusiveMaximum =>
    exact keyword?_of_bind (fun _ => keyword?_limitRule? (by decide)) h
  case dependencies => exact keyword?_of_bind (fun _ => keyword?_dependencyRule?) h
  case requiredTrue => exact Option.some.inj h ▸ rfl
  all_goals exact keyword?_of_map (fun _ => rfl) h

end Keyword

-- What an empty value lacks is asked for on the control, not in a schema.
theorem isValid_of_isEmpty (hk : r.keyword? = some k) (hs : k.isSchemaKeyword = true) (hx : x.isEmpty = true) :
    r.isValid x = true := by
  cases r
  case dependencies checks =>
    rw [isValid_dependencies]
    cases x <;> try rfl
    case obj members =>
      obtain rfl : members = [] := List.isEmpty_iff.mp hx
      simp [Json.members?, Dict.get?]
  case required | requiredTrue => exact absurd hs (Option.some.inj hk ▸ by decide)
  case anyOf | oneOf | allOf | not | custom => contradiction
  all_goals exact isValid_eq.trans (congrArg Option.isNone (if_pos hx))

end Rule

end FormModel
