import FormModel.Proofs.Build.LifeCycle
import FormModel.Proofs.Build.Writes

/-!
What is known of places while a context is asked for several things.  Whoever writes first wins: no place is forgotten,
and what has been learnt of one is never replaced, although several parts of several forms write to it.
-/

namespace FormModel

namespace Context

variable {c c' c'' d : Context} {key : String} {f : NodeOptions → NodeOptions}

-- Whether all that is known of places is still known.
def OptionsKept (c c' : Context) : Prop :=
  ∀ key o, Dict.get? c.options key = some o → ∃ o', Dict.get? c'.options key = some o' ∧ o.KeptIn o'

theorem OptionsKept.of_options (h : c'.options = c.options) : c.OptionsKept c' :=
  fun _ o ho => ⟨o, by rw [h, ho], .refl⟩

theorem OptionsKept.trans (h : c.OptionsKept c') (h' : c'.OptionsKept c'') : c.OptionsKept c'' := by
  intro key o ho
  have ⟨o', ho', hk⟩ := h key o ho
  have ⟨o'', ho'', hk'⟩ := h' key o' ho'
  exact ⟨o'', ho'', hk.trans hk'⟩

theorem optionsKept_learn (hf : NodeOptions.Adds f) : c.OptionsKept (c.learn key f) := by
  intro key' o ho
  simp only [learn, Dict.get?_insert]
  split
  case isTrue he =>
    refine ⟨_, rfl, ?_⟩
    rw [optionsAt, he, ho]
    exact hf o
  case isFalse => exact ⟨o, ho, .refl⟩

theorem Writes.optionsKept (h : c.Writes d c') : d.OptionsKept c' := by
  cases h
  case note hf => exact optionsKept_learn hf
  all_goals exact .of_options rfl

end Context

namespace Stage

variable {c : Context} {s s' : Stage}

-- Whether the form that is being built is built in order, with the maps that it was begun with.
def Orderly : Stage → Prop
  | idle _ _ => True
  | building _ _ m _ => ∃ c, m.Orderly c

theorem Orderly.next (ho : s.Orderly) (h : s.next? = some s') : s'.Orderly ∧ s.context.OptionsKept s'.context := by
  unfold next? at h
  split at h
  case h_1 => contradiction
  case h_2 c schema requests =>
    obtain ⟨⟨compiled, c'⟩, hr, rfl⟩ := Option.map_eq_some_iff.mp h
    exact ⟨trivial, .of_options (Context.options_of_resolve? hr)⟩
  case h_3 c fillDefaults schema data requests =>
    cases h
    exact ⟨⟨c, Builder.Moment.orderly_start⟩, .of_options rfl⟩
  case h_4 =>
    obtain ⟨c, hm⟩ := ho
    split at h
    case h_1 hn =>
      cases h
      have ⟨hm', hw⟩ := hm.next hn
      exact ⟨⟨c, hm'⟩, hw.optionsKept⟩
    case h_2 =>
      cases h
      exact ⟨trivial, .of_options rfl⟩

theorem Orderly.of_reaches (ho : s.Orderly) (h : s.Reaches s') : s'.Orderly ∧ s.context.OptionsKept s'.context := by
  induction h
  case refl => exact ⟨ho, .of_options rfl⟩
  case tail _ hn hi =>
    have ⟨ho', hk⟩ := hi.1.next hn
    exact ⟨ho', hi.2.trans hk⟩

end Stage

-- Whatever a context is asked for, it goes from stage to stage, and what is known of a place at one of them is known at
-- all later ones.
theorem first_writer_wins (c : Context) (requests : List Request) :
    (∀ before after c', requests = before ++ after → Answers c before c' →
      (Stage.idle c requests).Reaches (.idle c' after)) ∧
    ∀ s s', (Stage.idle c requests).Reaches s → s.Reaches s' → ∀ key o, Dict.get? s.context.options key = some o →
      ∃ o', Dict.get? s'.context.options key = some o' ∧ o.KeptIn o' := by
  refine ⟨?answered, ?stages⟩
  case answered =>
    rintro before after c' rfl ha
    exact Stage.reaches_of_answers ha
  case stages =>
    intro s s' hs hs'
    have ⟨ho, _⟩ : s.Orderly ∧ _ := Stage.Orderly.of_reaches (s := .idle c requests) trivial hs
    exact (ho.of_reaches hs').2

-- Two forms that do not agree about the places that they have in common.
def shortLists : Json :=
  .obj [("properties", .obj [("tags", .obj [("items", .obj [("type", "string")]), ("maxItems", .ofNat 3)])])]

def readOnlyLists : Json :=
  .obj [("properties", .obj [("tags",
    .obj [("items", .obj [("type", "number"), ("format", "float"), ("readOnly", .bool true)])])])]

def oneTag : Json := .obj [("tags", .arr ["a"])]

-- What the first form says of an item of the list stays; of the second one it is added that there is a format, and that
-- items are not to be changed.
theorem first_writer_wins_lists : ∃ c c' o o',
    Answers .empty [.resolve shortLists, .build false shortLists .null] c ∧
    Answers c [.resolve readOnlyLists, .build false readOnlyLists oneTag] c' ∧
    Dict.get? c.options "/tags/-" = some o ∧ Dict.get? c'.options "/tags/-" = some o' ∧ o.KeptIn o' ∧
    (o.primaryType?, o.schemaFormat, o.disabled) = (some "string", none, false) ∧
    (o'.primaryType?, o'.schemaFormat, o'.disabled) = (some "string", some "float", true) := by
  have hd : ((Context.empty.resolve? shortLists).bind fun r₁ => (r₁.2.build? false shortLists .null).bind fun r₂ =>
      (r₂.2.resolve? readOnlyLists).bind fun r₃ => (r₃.2.build? false readOnlyLists oneTag).bind fun r₄ =>
      (Dict.get? r₂.2.options "/tags/-").bind fun o => (Dict.get? r₄.2.options "/tags/-").map fun o' =>
        ((o.primaryType?, o.schemaFormat, o.disabled), (o'.primaryType?, o'.schemaFormat, o'.disabled))) =
      some ((some "string", none, false), (some "string", some "float", true)) := by decide +kernel
  obtain ⟨⟨_, c₁⟩, hr, hd⟩ := Option.bind_eq_some_iff.mp hd
  obtain ⟨⟨_, c⟩, hb, hd⟩ := Option.bind_eq_some_iff.mp hd
  obtain ⟨⟨_, c₂⟩, hr', hd⟩ := Option.bind_eq_some_iff.mp hd
  obtain ⟨⟨_, c'⟩, hb', hd⟩ := Option.bind_eq_some_iff.mp hd
  obtain ⟨o, ho, hd⟩ := Option.bind_eq_some_iff.mp hd
  obtain ⟨o', ho', hd⟩ := Option.map_eq_some_iff.mp hd
  have ⟨hd₁, hd₂⟩ := Prod.mk.inj hd
  have hfirst : Answers .empty [.resolve shortLists, .build false shortLists .null] c :=
    .resolve hr (.build (Context.buildWithin_of_build? hb) .nil)
  have hsecond : Answers c [.resolve readOnlyLists, .build false readOnlyLists oneTag] c' :=
    .resolve hr' (.build (Context.buildWithin_of_build? hb') .nil)
  have ⟨hanswered, hkept⟩ := first_writer_wins .empty
    [.resolve shortLists, .build false shortLists .null, .resolve readOnlyLists, .build false readOnlyLists oneTag]
  have ⟨hanswered', _⟩ := first_writer_wins c [.resolve readOnlyLists, .build false readOnlyLists oneTag]
  have ⟨o₁, ho₁, hk⟩ := hkept _ _ (hanswered _ _ c rfl hfirst) (hanswered' _ [] c' rfl hsecond) "/tags/-" o ho
  have heq : o' = o₁ := Option.some.inj (ho'.symm.trans ho₁)
  exact ⟨c, c', o, o', hfirst, hsecond, ho, ho', heq ▸ hk, hd₁, hd₂⟩

end FormModel
