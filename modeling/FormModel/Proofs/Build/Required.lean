import FormModel.Proofs.Build.Yields
import FormModel.Proofs.Reference.Visits
import FormModel.Proofs.Rule.Keyed

/-!
Where the rule stands that a control needs a value.  No control has it when a call gives it, and none in the library has
it; it is added right below a group, to the copies that the group has, under the names that the node lists from which the
group is built.  So it does not matter where a copy is from, and how often it is made.
-/

namespace FormModel

variable {schema data root node : Json} {fillDefaults : Bool} {name : String} {t child : Template}

-- Whether a node of the schema lists a name as required.
def Json.Lists (node : Json) (name : String) : Prop :=
  ∃ names, node.member? "required" = some (.arr names) ∧ .str name ∈ names

theorem Json.requires_iff : node.requires name = true ↔ node.Lists name := by
  have hmem (names : List Json) : name ∈ names.filterMap Json.string? ↔ .str name ∈ names := by
    rw [List.mem_filterMap]
    constructor
    case mp =>
      rintro ⟨v, hv, hs⟩
      cases v <;> cases hs
      exact hv
    case mpr => exact fun h => ⟨_, h, rfl⟩
  unfold requires Template.requiredNames? Lists
  rcases node.member? "required" with _ | (_ | _ | _ | _ | names | _)
  case some.arr => simp [Json.items?, hmem]
  all_goals simp [Json.items?]

-- No keyword that a control has as a rule of its own is this one.
theorem RuleBag.get?_ofControl_required : Dict.get? (ofControl schema) "required" = none := by
  cases schema
  case obj node =>
    have hn : "required" ∉ (typesOf node).flatMap typeKeys ++ ["enum", "const"] := by
      rw [List.mem_append, List.mem_flatMap]
      rintro (⟨type, _, hk⟩ | hk)
      case inl => exact absurd hk (by cases type <;> decide)
      case inr => exact absurd hk (by decide)
    rw [copied_ofControl.get?, if_neg hn]
  all_goals rfl

namespace Template

-- Whether a control does not have the rule that it needs a value.
def Unmarked (t : Template) : Prop := Dict.get? t.rules "required" = none

theorem get?_rules_requiredIf {asked : Bool} (h : t.Unmarked) :
    Dict.get? (t.requiredIf asked).rules "required" = if asked then some [] else none := by
  cases asked
  case false => exact h
  case true => cases t <;> simp [requiredIf, require, withRules, Template.rules, Dict.get?_insert]

end Template

namespace Builder

theorem Assembled.unmarked {P : Template → Prop} (h : Assembled P node t) : t.Unmarked := by
  cases h <;> exact RuleBag.get?_ofControl_required

-- A place whose control is begun to be built while a form is compiled, and what is known then.
def Begun (schema data : Json) (fillDefaults : Bool) (root : Json) (site : Site) (c : Context) : Prop :=
  ∃ c₀ calls, Context.empty.resolve? schema = some (root, c₀) ∧
    Moment.Reaches root fillDefaults ⟨c₀, Program.ofNode root fillDefaults ⟨"", data, "", ""⟩, []⟩
      ⟨c, Program.ofNode root fillDefaults site, calls⟩

-- The controls that are built from a node of the schema while a form is compiled, and those that are required besides.
inductive BuiltFrom (schema data : Json) (fillDefaults : Bool) (node : Json) : Template → Prop
  | built {root : Json} {site : Site} {c c' : Context} {levels : Nat} {t : Template} : Begun schema data fillDefaults root site c →
    root.at? site.schemaPointer = some node → within root fillDefaults levels site c = .ok (some t, c') →
    BuiltFrom schema data fillDefaults node t
  | required {t : Template} : BuiltFrom schema data fillDefaults node t → BuiltFrom schema data fillDefaults node t.require

-- At whatever time a control is begun, nothing in the library needs a value.
theorem Begun.stocked {site : Site} {c : Context} (h : Begun schema data fillDefaults root site c) :
    Stocked c Template.Unmarked c := by
  obtain ⟨c₀, calls, hr, hreach⟩ := h
  have hu : ∀ node t, Assembled Template.Unmarked node t → t.Unmarked := fun _ _ => Assembled.unmarked
  have hm := (Moment.yields_start hu (Context.library_of_resolve? hr)).of_reaches hu hreach
  exact ⟨⟨rfl, rfl, rfl⟩, hm.stocked.library⟩

-- What is right below a group is required if the node lists its name from which the group is built.
theorem BuiltFrom.get?_rules (h : BuiltFrom schema data fillDefaults node t) (hs : t.slot? (.member name) = some (some child)) :
    Dict.get? child.rules "required" = if node.requires name then some [] else none := by
  induction h
  case built hb hn hw =>
    have hk := hb.stocked
    obtain ⟨c₀, calls, _, hreach⟩ := hb
    have ⟨_, ha⟩ := Moment.assembled_within (fun _ _ ⟨_, _, ha⟩ => ha.unmarked) hreach hk hw
    obtain ⟨node', hn', ha⟩ := ha _ rfl
    obtain rfl := Option.some.inj (hn'.symm.trans hn)
    cases ha
    case group hc =>
      obtain ⟨t, ht, rfl⟩ := hc name child hs
      exact Template.get?_rules_requiredIf ht
    all_goals contradiction
  case required hi => exact hi (Template.slot?_require ▸ hs)

-- Whether a control is where a call put it: a group is built from a node of the schema, and nothing in a list is required.
structure Placed (schema data : Json) (fillDefaults : Bool) (t : Template) : Prop where
  list : ∀ {controls rules child}, t = .list controls rules → some child ∈ controls → child.Unmarked
  group : ∀ {controls rules}, t = .group controls rules → ∃ node, BuiltFrom schema data fillDefaults node t

theorem Placed.require (h : Placed schema data fillDefaults t) : Placed schema data fillDefaults t.require := by
  cases t
  case group =>
    have ⟨node, hb⟩ := h.group rfl
    exact ⟨nofun, fun _ => ⟨node, hb.required⟩⟩
  case list =>
    refine ⟨fun he hc => ?_, nofun⟩
    cases he
    exact h.list rfl hc
  case leaf => exact ⟨nofun, nofun⟩

-- What may come out of a call: nothing is required yet, and everything inside is where a call put it.
structure Proper (schema data : Json) (fillDefaults : Bool) (t : Template) : Prop where
  unmarked : t.Unmarked
  placed : ∀ {path t'}, t.follow? path = some t' → Placed schema data fillDefaults t'

variable {asked : Bool} {path : Path} {t' : Template}

theorem Proper.placed_requiredIf (h : Proper schema data fillDefaults t) (hf : (t.requiredIf asked).follow? path = some t') :
    Placed schema data fillDefaults t' := by
  cases asked
  case false => exact h.placed hf
  case true =>
    cases path
    case nil =>
      have ht : t.follow? [] = some t := rfl
      exact Option.some.inj hf ▸ (h.placed ht).require
    case cons slot path =>
      have ht : t.follow? (slot :: path) = some t' := by
        rwa [Template.requiredIf, if_pos rfl, Template.follow?, Template.slot?_require] at hf
      exact h.placed ht

theorem Assembled.proper (ha : Assembled (Proper schema data fillDefaults) node t)
    (hb : BuiltFrom schema data fillDefaults node t) : Proper schema data fillDefaults t := by
  refine ⟨ha.unmarked, fun {path t'} hf => ?_⟩
  cases path
  case nil =>
    obtain rfl := Option.some.inj hf
    refine ⟨fun he hc => ?_, fun _ => ⟨node, hb⟩⟩
    subst he
    cases ha
    case list hl => exact (hl _ hc _ rfl).unmarked
  case cons slot path =>
    obtain ⟨child, hs, hchild⟩ := Option.bind_eq_some_iff.mp hf
    rw [Option.join_eq_some_iff] at hs
    cases ha <;> cases slot <;> try contradiction
    case group.member hc name =>
      obtain ⟨t, ht, rfl⟩ := hc name child hs
      exact ht.placed_requiredIf hchild
    case list.item hc i => exact (hc _ (List.mem_of_getElem? hs) child rfl).placed hchild

theorem proper_of_compiles {out : Compilation} (h : Compiles schema data fillDefaults out) :
    OptionHolds (Proper schema data fillDefaults) out.template ∧
      ∀ key, OptionHolds (Proper schema data fillDefaults) (out.context.libraryCopy? key) := by
  have ⟨c, levels, hr, hb⟩ := h
  have hproper {site : Site} {c₁ c₂ : Context} {levels : Nat} {t : Template} {calls : List Frame}
      (hreach : Moment.Reaches out.schema fillDefaults ⟨c, Program.ofNode out.schema fillDefaults ⟨"", data, "", ""⟩, []⟩
        ⟨c₁, Program.ofNode out.schema fillDefaults site, calls⟩)
      (hw : within out.schema fillDefaults levels site c₁ = .ok (some t, c₂))
      (ht : AssembledAt out.schema (Proper schema data fillDefaults) site.schemaPointer t) :
      Proper schema data fillDefaults t := by
    obtain ⟨node, hn, ha⟩ := ht
    exact ha.proper (.built ⟨c, calls, hr, hreach⟩ hn hw)
  have hstocked : Stocked c (Proper schema data fillDefaults) c := .of_library_nil (Context.library_of_resolve? hr)
  obtain ⟨hk, ho⟩ := Moment.assembled_within hproper .refl hstocked hb
  exact ⟨fun t ht => hproper .refl (ht ▸ hb) (ho t ht), fun key => hk.libraryCopy?⟩

end Builder

variable {out : Compilation}

-- Nothing outside groups needs a value, neither a form as a whole nor what is in a list; and right below a group the rule
-- stands on the controls under the names that the node lists from which the group is built.
theorem required_exactly_where_listed (h : Compiles schema data fillDefaults out)
    (ht : out.template = some t ∨ ∃ key, Dict.get? out.context.library key = some (.ready t)) :
    Dict.get? t.rules "required" = none ∧ ∀ path,
      (∀ controls rules child, t.follow? path = some (.list controls rules) → some child ∈ controls →
        Dict.get? child.rules "required" = none) ∧
      ∀ controls rules, t.follow? path = some (.group controls rules) →
        (∃ node, Builder.BuiltFrom schema data fillDefaults node (.group controls rules)) ∧
        ∀ node, Builder.BuiltFrom schema data fillDefaults node (.group controls rules) →
          ∀ name child, Dict.get? controls name = some (some child) →
            (Dict.get? child.rules "required" = some [] ↔ node.Lists name) ∧
            (Dict.get? child.rules "required" = none ↔ ¬node.Lists name) := by
  have ⟨htemplate, hlibrary⟩ := Builder.proper_of_compiles h
  have hproper : Builder.Proper schema data fillDefaults t := by
    rcases ht with ht | ⟨key, ht⟩
    case inl => exact htemplate t ht
    case inr => exact hlibrary key t (Context.libraryCopy?_eq_some.mpr ht)
  refine ⟨hproper.unmarked, fun path => ⟨fun controls rules child hf hc => ?list, fun controls rules hf => ⟨?built, ?marks⟩⟩⟩
  case list => exact (hproper.placed hf).list rfl hc
  case built => exact (hproper.placed hf).group rfl
  case marks =>
    intro node hb name child hc
    rw [← Json.requires_iff, hb.get?_rules hc]
    cases node.requires name <;> simp

-- A list that goes on for ever, as every value has to be followed by another one.
def endlessList : Json :=
  .obj [("properties", .obj [("value", .obj [("type", "string")]), ("next", .obj [("$ref", "#")])]),
    ("required", .arr ["next"])]

-- The rest of the list is a copy from the library; the copy is required, and what is in the library is not.
theorem required_exactly_where_listed_endlessList : ∃ out controls rules next value entry,
    Compiles endlessList .null false out ∧ out.template = some (.group controls rules) ∧
    Dict.get? out.context.library "" = some (.ready entry) ∧ Dict.get? entry.rules "required" = none ∧
    Dict.get? controls "next" = some (some next) ∧ Dict.get? next.rules "required" = some [] ∧
    Dict.get? controls "value" = some (some value) ∧ Dict.get? value.rules "required" = none := by
  have hc : (compile? endlessList .null false).bind (fun out => out.template.bind fun t =>
      (t.slot? (.member "next")).join.bind fun _ => (t.slot? (.member "value")).join.bind fun _ =>
        (out.context.libraryCopy? "").map fun _ => (t.kind, out.schema.requires "next", out.schema.requires "value")) =
      some ("group", true, false) := by decide +kernel
  obtain ⟨out, ho, hc⟩ := Option.bind_eq_some_iff.mp hc
  obtain ⟨t, ht, hc⟩ := Option.bind_eq_some_iff.mp hc
  obtain ⟨next, hnext, hc⟩ := Option.bind_eq_some_iff.mp hc
  obtain ⟨value, hvalue, hc⟩ := Option.bind_eq_some_iff.mp hc
  obtain ⟨entry, hentry, hc⟩ := Option.map_eq_some_iff.mp hc
  simp only [Prod.mk.injEq] at hc
  obtain ⟨hkind, hlists, hnot⟩ := hc
  obtain ⟨controls, rules, rfl⟩ : ∃ controls rules, t = .group controls rules := by
    cases t <;> first | exact ⟨_, _, rfl⟩ | simp [Template.kind] at hkind
  have hcompiles := compiles_of_compile? ho
  have hbuilt : Builder.BuiltFrom endlessList .null false out.schema (.group controls rules) := by
    obtain ⟨c, levels, hr, hb⟩ := hcompiles
    exact .built ⟨c, [], hr, .refl⟩ rfl (ht ▸ hb)
  have hready := Context.libraryCopy?_eq_some.mp hentry
  have ⟨_, hinside⟩ := required_exactly_where_listed hcompiles (.inl ht)
  have hmarks := ((hinside []).2 controls rules rfl).2 out.schema hbuilt
  have hnext := Option.join_eq_some_iff.mp hnext
  have hvalue := Option.join_eq_some_iff.mp hvalue
  refine ⟨out, controls, rules, next, value, entry, hcompiles, ht, hready, ?entry, hnext, ?next, hvalue, ?value⟩
  case entry => exact (required_exactly_where_listed hcompiles (.inr ⟨"", hready⟩)).1
  case next => exact (hmarks "next" next hnext).1.mpr (Json.requires_iff.mp hlists)
  case value => exact (hmarks "value" value hvalue).2.mpr (Json.requires_iff.not.mp (by simp [hnot]))

end FormModel
