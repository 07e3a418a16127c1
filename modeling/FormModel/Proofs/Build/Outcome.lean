import FormModel.Context.Build

/-!
The outcome of building, one step after the other, and of compiling, with as many levels as it takes.
-/

namespace FormModel

namespace Builder

variable {α β : Type} {m : Builder α} {f : α → Builder β} {c : Context}

theorem bind_eq_ok {r : β × Context} :
    (m >>= f) c = .ok r ↔ ∃ a c₁, m c = .ok (a, c₁) ∧ f a c₁ = .ok r := by
  show Except.bind (m c) _ = _ ↔ _
  rcases m c with e | ⟨a, c₁⟩ <;> simp [Except.bind, and_assoc]

theorem bind_eq_error {e : Context} :
    (m >>= f) c = .error e ↔ m c = .error e ∨ ∃ a c₁, m c = .ok (a, c₁) ∧ f a c₁ = .error e := by
  show Except.bind (m c) _ = _ ↔ _
  rcases m c with e | ⟨a, c₁⟩ <;> simp [Except.bind, and_assoc]

end Builder

-- Compiling comes to an end, and this is what comes out.
def Compiles (schema data : Json) (fillDefaults : Bool) (out : Compilation) : Prop :=
  ∃ c levels, Context.empty.resolve? schema = some (out.schema, c) ∧
    c.buildWithin fillDefaults out.schema data levels = .ok (out.template, out.context)

variable {schema data : Json} {fillDefaults : Bool} {out : Compilation}

theorem Context.buildWithin_of_build? {c : Context} {r : Option Template × Context}
    (h : c.build? fillDefaults schema data = some r) :
    c.buildWithin fillDefaults schema data (Builder.enoughLevels c schema data) = .ok r := by
  unfold Context.build? at h
  cases hb : c.buildWithin fillDefaults schema data (Builder.enoughLevels c schema data) <;> rw [hb] at h
  case error => contradiction
  case ok => exact congrArg _ (Option.some.inj h)

theorem compiles_of_compile? (h : compile? schema data fillDefaults = some out) :
    Compiles schema data fillDefaults out := by
  obtain ⟨⟨compiled, c⟩, hr, h⟩ := Option.bind_eq_some_iff.mp h
  obtain ⟨⟨template, c'⟩, hb, h⟩ := Option.bind_eq_some_iff.mp h
  obtain rfl := Option.some.inj h
  exact ⟨c, Builder.enoughLevels c compiled data, hr, Context.buildWithin_of_build? hb⟩

end FormModel
