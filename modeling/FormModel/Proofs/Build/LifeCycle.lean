import FormModel.Proofs.Build.Moment
import FormModel.Proofs.Build.Outcome

/-!
A context asked for several things, one after the other.  Schemas may have their references taken away and forms
may be built in any order, of any schemas; at every time the entries of the library that are being built are those
of the calls that have made them and are not finished.
-/

namespace FormModel

-- What a context can be asked for.
inductive Request where
  | resolve (schema : Json)
  | build (fillDefaults : Bool) (schema data : Json)

-- What answering requests one after the other makes of a context, if every answer has an end.
inductive Answers : Context → List Request → Context → Prop
  | nil {c} : Answers c [] c
  | resolve {c c₁ c' schema compiled requests} : c.resolve? schema = some (compiled, c₁) → Answers c₁ requests c' →
    Answers c (.resolve schema :: requests) c'
  | build {c c₁ c' fillDefaults schema data levels template requests} :
    c.buildWithin fillDefaults schema data levels = .ok (template, c₁) → Answers c₁ requests c' →
    Answers c (.build fillDefaults schema data :: requests) c'

-- Between two requests, or while a form is built; the requests are those that have not been looked at.
inductive Stage where
  | idle (c : Context) (requests : List Request)
  | building (root : Json) (fillDefaults : Bool) (m : Builder.Moment) (requests : List Request)

namespace Stage

-- What is known.
def context : Stage → Context
  | idle c _ => c
  | building _ _ m _ => m.context

-- The keys of the entries that have been made by calls that are not finished.
def openKeys : Stage → List String
  | idle _ _ => []
  | building _ _ m _ => m.openKeys

-- A new context.
def first (requests : List Request) : Stage := idle .empty requests

-- The beginning of building a form.
def start (c : Context) (fillDefaults : Bool) (schema data : Json) (requests : List Request) : Stage :=
  building schema fillDefaults ⟨c, Builder.Program.ofNode schema fillDefaults ⟨"", data, "", ""⟩, []⟩ requests

-- The next stage.  Taking references away touches nothing in the library, so it is one stage to the next.
def next? : Stage → Option Stage
  | idle _ [] => none
  | idle c (.resolve schema :: requests) => (c.resolve? schema).map fun (_, c') => idle c' requests
  | idle c (.build fillDefaults schema data :: requests) => some (start c fillDefaults schema data requests)
  | building root fillDefaults m requests =>
    match m.next? root fillDefaults with
    | some m' => some (building root fillDefaults m' requests)
    | none => some (idle m.context requests)

-- Whether one stage comes after another.
abbrev Reaches : Stage → Stage → Prop := Relation.ReflTransGen fun s s' => s.next? = some s'

variable {c c' : Context} {requests before after : List Request} {root schema data : Json} {fillDefaults : Bool}
  {m m' : Builder.Moment} {s s' : Stage} {levels : Nat} {template : Option Template}

theorem reaches_building (h : m.Reaches root fillDefaults m') :
    (building root fillDefaults m requests).Reaches (building root fillDefaults m' requests) :=
  h.lift (building root fillDefaults · requests) fun m m' hm => by simp [Function.onFun, next?, hm]

-- Building a form that has an end comes to it from stage to stage.
theorem reaches_of_buildWithin (requests : List Request)
    (h : c.buildWithin fillDefaults schema data levels = .ok (template, c')) :
    (idle c (.build fillDefaults schema data :: requests)).Reaches (idle c' requests) :=
  .head rfl ((reaches_building (Builder.Moment.passes_within.ok h)).tail rfl)

theorem reaches_of_answers (h : Answers c before c') : (idle c (before ++ after)).Reaches (idle c' after) := by
  induction h
  case nil => exact .refl
  case resolve c c₁ c' schema compiled requests hr _ hi => exact .head (by simp [next?, hr]) hi
  case build hb _ hi => exact (reaches_of_buildWithin _ hb).trans hi

-- Where the levels allowed do not suffice, what had been learnt by then is what was known at some stage.
theorem reaches_of_outOfLevels (requests : List Request)
    (h : c.buildWithin fillDefaults schema data levels = .error c') :
    ∃ s, (idle c (.build fillDefaults schema data :: requests)).Reaches s ∧ s.context = c' := by
  have ⟨m, hr, hc⟩ : Builder.Moment.Meets schema fillDefaults ⟨c, _, []⟩ c' := Builder.Moment.passes_within.error h
  exact ⟨building schema fillDefaults m requests, .head rfl (reaches_building hr), hc⟩

-- What one stage does to the library.
theorem opened_next (ho : s.context.Opened s.openKeys) (h : s.next? = some s') :
    s'.context.Opened s'.openKeys ∧ s.context.KeepsReady s'.context := by
  unfold next? at h
  split at h
  case h_1 => contradiction
  case h_2 c schema requests =>
    obtain ⟨⟨compiled, c'⟩, hr, rfl⟩ := Option.map_eq_some_iff.mp h
    have hl := Context.library_of_resolve? hr
    exact ⟨ho.of_library hl, .of_library hl⟩
  case h_3 =>
    cases h
    exact ⟨ho, .refl⟩
  case h_4 root fillDefaults m requests =>
    split at h
    case h_1 hm =>
      cases h
      exact Builder.Moment.opened_next ho hm
    case h_2 hm =>
      cases h
      refine ⟨?_, .refl⟩
      rw [openKeys, Builder.Moment.openKeys_of_next? hm] at ho
      exact ho

theorem opened_first : (first requests).context.Opened (first requests).openKeys := Context.opened_empty

theorem opened_of_reaches (ho : s.context.Opened s.openKeys) (h : s.Reaches s') :
    s'.context.Opened s'.openKeys ∧ s.context.KeepsReady s'.context := by
  induction h
  case refl => exact ⟨ho, .refl⟩
  case tail _ hn hi =>
    have ⟨ho', hk⟩ := opened_next hi.1 hn
    exact ⟨ho', hi.2.trans hk⟩

end Stage

-- Whatever a new context is asked for, it goes from stage to stage, and at each of them the entries of the library
-- that are being built are those of the calls that have made them and are not finished.
theorem library_life_cycle (requests : List Request) :
    (∀ before after c, requests = before ++ after → Answers .empty before c →
      (Stage.first requests).Reaches (.idle c after)) ∧
    (∀ before fillDefaults schema data after levels c c', requests = before ++ .build fillDefaults schema data :: after →
      Answers .empty before c → c.buildWithin fillDefaults schema data levels = .error c' →
      ∃ s, (Stage.first requests).Reaches s ∧ s.context = c') ∧
    ∀ s, (Stage.first requests).Reaches s →
      s.openKeys.Nodup ∧ (∀ key, Dict.get? s.context.library key = some .building ↔ key ∈ s.openKeys) ∧
      (∀ c after, s = .idle c after → ∀ key, Dict.get? c.library key ≠ some .building) ∧
      ∀ s', s.Reaches s' → ∀ key t, Dict.get? s.context.library key = some (.ready t) →
        Dict.get? s'.context.library key = some (.ready t) := by
  refine ⟨?answered, ?unfinished, ?stages⟩
  case answered =>
    rintro before after c rfl ha
    exact Stage.reaches_of_answers ha
  case unfinished =>
    rintro before fillDefaults schema data after levels c c' rfl ha hb
    have ⟨s, hs, hc⟩ := Stage.reaches_of_outOfLevels after hb
    exact ⟨s, (Stage.reaches_of_answers ha).trans hs, hc⟩
  case stages =>
    intro s hs
    have ⟨ho, _⟩ := Stage.opened_of_reaches Stage.opened_first hs
    refine ⟨ho.nodup, fun _ => ho.building, ?_, fun s' hs' => (Stage.opened_of_reaches ho hs').2⟩
    rintro c after rfl key hk
    exact nomatch ho.building.mp hk

-- A list of values that ends somewhere.
def linkedList : Json :=
  .obj [("properties", .obj [("value", .obj [("type", "string")]), ("next", .obj [("$ref", "#")])])]

def twoValues : Json := .obj [("value", "a"), ("next", .obj [("value", "b")])]

def linkedListContext : Context :=
  { Context.empty with schemaRefs := [("/properties/next", "")], dataRefs := [("/next", "")] }

theorem resolve?_linkedList : Context.empty.resolve? linkedList = some (linkedList, linkedListContext) := by
  with_unfolding_all rfl

-- Where two levels are allowed, building stops when the rest of the list has been begun.
theorem buildWithin_linkedList_two : ∃ c, linkedListContext.buildWithin false linkedList .null 2 = .error c ∧
    Dict.get? c.library "" = some .building := by
  refine ⟨_, by with_unfolding_all rfl, ?_⟩
  rfl

-- While the first form is built the rest of the list is being built for the library; then it is ready, and the
-- second form does not change it.
theorem library_life_cycle_linkedList : ∃ c c' t,
    Answers .empty [.resolve linkedList, .build false linkedList .null] c ∧
    Answers .empty [.resolve linkedList, .build false linkedList .null, .build true linkedList twoValues] c' ∧
    (∃ s, (Stage.first [.resolve linkedList, .build false linkedList .null, .build true linkedList twoValues]).Reaches s ∧
      "" ∈ s.openKeys) ∧
    (∀ key, Dict.get? c.library key ≠ some .building) ∧
    Dict.get? c.library "" = some (.ready t) ∧ Dict.get? c'.library "" = some (.ready t) := by
  have hb : ((linkedListContext.build? false linkedList .null).bind fun r => (r.2.build? true linkedList twoValues).map
      fun _ => (r.2.libraryCopy? "").isSome) = some true := by decide +kernel
  obtain ⟨⟨_, c⟩, hc, hb⟩ := Option.bind_eq_some_iff.mp hb
  obtain ⟨⟨_, c'⟩, hc', ht⟩ := Option.map_eq_some_iff.mp hb
  obtain ⟨t, ht⟩ := Option.isSome_iff_exists.mp ht
  rw [Context.libraryCopy?_eq_some] at ht
  have hc := Context.buildWithin_of_build? hc
  have hc' := Context.buildWithin_of_build? hc'
  have hfirst : Answers .empty [.resolve linkedList, .build false linkedList .null] c :=
    .resolve resolve?_linkedList (.build hc .nil)
  have hboth : Answers .empty [.resolve linkedList, .build false linkedList .null, .build true linkedList twoValues] c' :=
    .resolve resolve?_linkedList (.build hc (.build hc' .nil))
  have ⟨hanswered, hunfinished, hstages⟩ :=
    library_life_cycle [.resolve linkedList, .build false linkedList .null, .build true linkedList twoValues]
  have ⟨_, _, hidle, hready⟩ := hstages _ (hanswered _ _ c rfl hfirst)
  refine ⟨c, c', t, hfirst, hboth, ?unfinished, hidle c _ rfl, ht, ?kept⟩
  case unfinished =>
    have ⟨_, he, hk⟩ := buildWithin_linkedList_two
    have ⟨s, hs, hcs⟩ := hunfinished [.resolve linkedList] _ _ _ _ _ _ _ rfl (.resolve resolve?_linkedList .nil) he
    have ⟨_, hopen, _⟩ := hstages s hs
    exact ⟨s, hs, (hopen "").mp (hcs ▸ hk)⟩
  case kept => exact hready _ (Stage.reaches_of_buildWithin [] hc') "" t ht

end FormModel
