import FormModel.Proofs.Reference.Visits
import FormModel.Pointer.Traversal
import Mathlib.Data.List.Infix

/-!
References that are left.  A reference in what a schema becomes is one that was put at a repetition, or it came with a
value that is copied as it stands: a schema whose reference cannot be used, a value referred to that is no object, and
the value of a member that is not taken for a schema, by its name alone.  Both cannot be so at one place, since
the way that leads there is the only one.
-/

namespace FormModel

namespace Reference

variable {root out value : Json} {s s' s₁ s₂ : Site} {members : Dict Json} {ancestor ref key : String}
  {noted : RecursionMap} {p q : Path}

-- The keywords under which schemas and lists of schemas stand.
def schemaKeywords : List String :=
  ["items", "additionalItems", "additionalProperties", "allOf", "anyOf", "oneOf", "not"]

-- The places of the schemas inside a schema.
inductive SchemaPlace : Path → Prop
  | root : SchemaPlace []
  | property {p : Path} {name : String} (h : SchemaPlace p) : SchemaPlace (p ++ [.member "properties", .member name])
  | keyword {p : Path} {key : String} (h : SchemaPlace p) (hk : key ∈ schemaKeywords) : SchemaPlace (p ++ [.member key])
  | listed {p : Path} {key : String} {i : Nat} (h : SchemaPlace p) (hk : key ∈ schemaKeywords) :
    SchemaPlace (p ++ [.member key, .item i])

-- The values that are copied at a site without a look inside, and where below it.
inductive Copies (root : Json) (s : Site) : Path → Json → Prop
  | unusable {members : Dict Json} {ref : String} (hn : s.node = .obj members) (ht : text? members = some ref)
    (htarget : target? ref = none) : Copies root s [] (.obj members)
  | noObject {members : Dict Json} {ref target : String} (hn : s.node = .obj members) (ht : text? members = some ref)
    (htarget : target? ref = some target) (hp : placed? s.around target = none)
    (hr : ∀ merged, referred root target members ≠ .obj merged) : Copies root s [] (referred root target members)
  | verbatim {members : Dict Json} {key : String} {value : Json} (hn : s.node = .obj members) (ht : text? members = none)
    (hk : isVerbatim key = true) (hm : members.get? key = some value) : Copies root s [.member key] value

-- Whether a reference of a schema is copied to a place with a value around it.
def Copied (schema : Json) (p : Path) (ref : String) : Prop :=
  ∃ s q value r, Visits schema (start schema) s ∧ Copies schema s q value ∧ s.place ++ q ++ r = p ++ [.member "$ref"] ∧
    value.follow? r = some (.str ref)

-- Whether all references at places of schemas either cannot be used or have been noted as repetitions.
def Resolved (compiled : Json) (refs : RecursionMap) : Prop :=
  ∀ p members ref, SchemaPlace p → compiled.follow? p = some (.obj members) → text? members = some ref →
    target? ref = none ∨ refs.has (Pointer.ofPath p) = true

section Fork

theorem eq_of_prefix_concat {slot slot' : Slot} (h : p ++ [slot] <+: q) (h' : p ++ [slot'] <+: q) : slot = slot' := by
  have he := List.IsPrefix.eq_of_length (List.prefix_of_prefix_length_le h h' (by simp)) (by simp)
  simpa using he

-- There is one step at most to each place.
theorem Step.fork (h : Step root s s₁) (h' : Step root s s₂) : s₁ = s₂ ∨ ∃ slot slot', slot ≠ slot' ∧
    s₁.place = s.place ++ [slot] ∧ s₂.place = s.place ++ [slot'] := by
  cases h <;> cases h'
  case member.member members key value hn _ _ _ hm members' key' value' hn' _ _ _ hm' =>
    obtain rfl := Json.obj.inj (hn.symm.trans hn')
    by_cases hk : key = key'
    case pos =>
      subst hk
      exact .inl (by rw [Option.some.inj (hm.symm.trans hm')])
    case neg => exact .inr ⟨.member key, .member key', by simpa using hk, rfl, rfl⟩
  case item.item items i value hn hi items' i' value' hn' hi' =>
    obtain rfl := Json.arr.inj (hn.symm.trans hn')
    by_cases hk : i = i'
    case pos =>
      subst hk
      exact .inl (by rw [Option.some.inj (hi.symm.trans hi')])
    case neg => exact .inr ⟨.item i, .item i', by simpa using hk, rfl, rfl⟩
  case follow.follow hn ht htarget _ hr _ _ _ _ hn' ht' htarget' _ hr' =>
    obtain rfl := Json.obj.inj (hn.symm.trans hn')
    obtain rfl := Option.some.inj (ht.symm.trans ht')
    obtain rfl := Option.some.inj (htarget.symm.trans htarget')
    exact .inl (by rw [Json.obj.inj (hr.symm.trans hr')])
  all_goals simp_all

-- The sites on the way form a tree.
theorem Visits.fork (h : Visits root s s₁) (h' : Visits root s s₂) : Visits root s₁ s₂ ∨ Visits root s₂ s₁ ∨
    ∃ p slot slot', slot ≠ slot' ∧ p ++ [slot] <+: s₁.place ∧ p ++ [slot'] <+: s₂.place := by
  induction h using Relation.ReflTransGen.head_induction_on
  case refl => exact .inl h'
  case head s s' hs hv hi =>
    rcases Relation.ReflTransGen.cases_head h' with rfl | ⟨s'', hs', hv'⟩
    case inl => exact .inr (.inl (.head hs hv))
    case inr =>
      rcases hs.fork hs' with rfl | ⟨slot, slot', hne, hp, hp'⟩
      · exact hi hv'
      · exact .inr (.inr ⟨s.place, slot, slot', hne, hp ▸ Visits.prefix_place hv, hp' ▸ Visits.prefix_place hv'⟩)

theorem Site.Repeats.not_step (h : s.Repeats ancestor) : ¬Step root s s' := by
  obtain ⟨_, _, _, hn, ht, htarget, hp⟩ := h
  intro hs
  cases hs <;> simp_all

theorem Site.Repeats.not_copies (h : s.Repeats ancestor) : ¬Copies root s q value := by
  obtain ⟨_, _, _, hn, ht, htarget, hp⟩ := h
  intro hc
  cases hc <;> simp_all

-- A step leads past what is copied.
theorem Copies.ne_of_step (h : Copies root s q value) (hs : Step root s s') :
    ∃ slot slot', slot ≠ slot' ∧ q = [slot] ∧ s'.place = s.place ++ [slot'] := by
  cases h
  case unusable => cases hs <;> simp_all
  case noObject => cases hs <;> simp_all
  case verbatim _ key hn _ hk _ =>
    cases hs
    case member key' _ _ _ _ hk' _ =>
      refine ⟨.member key, .member key', fun he => ?_, rfl, rfl⟩
      rw [Slot.member.inj he, hk'] at hk
      contradiction
    all_goals simp_all

-- Nothing is copied around a repetition, nor in its place.
theorem not_copied_of_repeats (hv : Visits root (start root) s) (hr : s.Repeats ancestor) :
    ¬Copied root s.place ref := by
  rintro ⟨s₁, q, value, r, hv₁, hc, hplace, _⟩
  have hwithin : s₁.place ++ q <+: s.place ++ [.member "$ref"] := ⟨r, hplace⟩
  have hs : s.place <+: s.place ++ [.member "$ref"] := List.prefix_append ..
  rcases hv.fork hv₁ with hbelow | habove | ⟨p, slot, slot', hne, hp, hp'⟩
  · rcases Relation.ReflTransGen.cases_head hbelow with rfl | ⟨_, hstep, _⟩
    · exact hr.not_copies hc
    · exact hr.not_step hstep
  · rcases Relation.ReflTransGen.cases_head habove with rfl | ⟨s₂, hstep, hv₂⟩
    · exact hr.not_copies hc
    · obtain ⟨slot, slot', hne, rfl, hp⟩ := hc.ne_of_step hstep
      exact hne (eq_of_prefix_concat hwithin (hp ▸ (Visits.prefix_place hv₂).trans hs))
  · exact hne (eq_of_prefix_concat (hp.trans hs) (hp'.trans ((List.prefix_append ..).trans hwithin)))

end Fork

section Settled

variable {items items' : List Json} {levels n : Nat} {refs refs' : RecursionMap} {text : String} {slot : Slot} {place : Path}

-- A site from which no reference is followed, and what it becomes.
inductive Settled (root : Json) (s : Site) (out : Json) (noted : RecursionMap) : Prop
  | repeats {ancestor : String} (h : s.Repeats ancestor)
  | copied (h : Copies root s [] out)
  | members {members' : Dict Json} (ho : out = .obj members') (hm : ∀ key value', members'.get? key = some value' →
      Copies root s [.member key] value' ∨
        ∃ value, Step root s (s.member key value) ∧ Becomes root (s.member key value) value' noted)
  | items {items' : List Json} (ho : out = .arr items') (hi : ∀ i value', items'[i]? = some value' →
      ∃ value, Step root s (s.item i value) ∧ Becomes root (s.item i value) value' noted)
  | scalar (h : s.node.isContainer = false) (ho : out = s.node)

theorem length_inlineItems {expand : Json → String → String → List Enclosing → Inliner Json} {source location : String}
    {around : List Enclosing} (h : inlineItems root expand n items source location around refs = some (items', refs')) :
    items'.length = items.length := by
  induction items generalizing n items' refs
  case nil =>
    cases h
    rfl
  case cons item rest hi =>
    rw [inlineItems] at h
    obtain ⟨_, _, _, h⟩ := bind_eq_some.mp h
    obtain ⟨_, _, hrest, h⟩ := bind_eq_some.mp h
    cases h
    rw [List.length_cons, hi hrest, List.length_cons]

theorem settled_members (hr : root.Distinct) (hd : s.node.Distinct) (hn : s.node = .obj members) (ht : text? members = none)
    (hkept : ∀ l, Dict.has refs' l = true → noted.has l = true)
    (hb : inlineNode root (inline root levels) s.node s.source (Pointer.ofPath s.place) s.around refs = some (out, refs')) :
    Settled root s out noted := by
  rw [hn] at hd hb
  obtain ⟨members', rfl, hm⟩ := inlineNode_obj ht hb
  refine .members rfl fun key value' hg => ?_
  have hkey : key ∈ (Dict.keys members).filter fun key => !isDefinitions key := by
    rw [← keys_inlineMembers hm]
    exact Dict.mem_keys_of_has (by rw [Dict.has, hg]; rfl)
  obtain ⟨hkey, hk⟩ := List.mem_filter.mp hkey
  rw [Bool.not_eq_true'] at hk
  obtain ⟨value, hv⟩ := Option.ne_none_iff_exists'.mp fun hnone => Dict.get?_eq_none.mp hnone hkey
  cases hver : isVerbatim key
  case true =>
    obtain ⟨value'', hg', hin⟩ := get?_inlineMembers hk hv hm
    rw [Inlined, if_pos hver] at hin
    obtain rfl := Option.some.inj (hg.symm.trans hg')
    exact .inl (hin ▸ .verbatim hn ht hver hv)
  case false =>
    obtain ⟨value'', refs₁, refs₁', hg', hk', hb'⟩ := exists_inlineMember hr (notesBelow_inline hr levels) hd.2 hk hver hv hm
    obtain rfl := Option.some.inj (hg.symm.trans hg')
    exact .inr ⟨value, .member hn ht hk hver hv, levels, refs₁, refs₁', fun l hl => hkept l (hk' l hl), hb'⟩

theorem settled_items (hr : root.Distinct) (hd : s.node.Distinct) (hn : s.node = .arr items)
    (hkept : ∀ l, Dict.has refs' l = true → noted.has l = true)
    (hb : inlineNode root (inline root levels) s.node s.source (Pointer.ofPath s.place) s.around refs = some (out, refs')) :
    Settled root s out noted := by
  rw [hn] at hd hb
  rw [inlineNode] at hb
  obtain ⟨items', _, hitems, hb⟩ := bind_eq_some.mp hb
  cases hb
  refine .items rfl fun i value' hi => ?_
  have hlt := (List.getElem?_eq_some_iff.mp hi).1
  rw [length_inlineItems hitems] at hlt
  have hv : items[i]? = some items[i] := List.getElem?_eq_getElem hlt
  obtain ⟨value'', refs₁, refs₁', hi', hk', hb'⟩ := exists_inlineItem hr (notesBelow_inline hr levels) hd hv hitems
  rw [Nat.zero_add] at hb'
  obtain rfl := Option.some.inj (hi.symm.trans hi')
  exact ⟨_, .item hn hv, levels, refs₁, refs₁', fun l hl => hkept l (hk' l hl), hb'⟩

theorem settled_or_follow (hr : root.Distinct) (hd : s.node.Distinct) (hkept : ∀ l, Dict.has refs' l = true → noted.has l = true)
    (hb : inlineNode root (inline root levels) s.node s.source (Pointer.ofPath s.place) s.around refs = some (out, refs')) :
    Settled root s out noted ∨ ∃ s', Step root s s' ∧ s'.place = s.place ∧
      inline root levels s'.node s'.source (Pointer.ofPath s'.place) s'.around refs = some (out, refs') := by
  cases hn : s.node
  case obj members =>
    cases ht : text? members
    case none => exact .inl (settled_members hr hd hn ht hkept hb)
    case some ref =>
      rw [hn] at hb
      cases htarget : target? ref
      case none =>
        simp only [inlineNode, ht, inlineReference, htarget] at hb
        cases hb
        exact .inl (.copied (.unusable hn ht htarget))
      case some target =>
        cases hp : placed? s.around target
        case some ancestor => exact .inl (.repeats ⟨members, ref, target, hn, ht, htarget, hp⟩)
        case none =>
          cases hm : referred root target members
          case obj merged =>
            simp only [inlineNode, ht, inlineReference, htarget, hp, hm] at hb
            exact .inr ⟨_, .follow hn ht htarget hp hm, rfl, hb⟩
          all_goals
            simp only [inlineNode, ht, inlineReference, htarget, hp, hm] at hb
            cases hb
            exact .inl (.copied (hm ▸ .noObject hn ht htarget hp (by simp [hm])))
  case arr items => exact .inl (settled_items hr hd hn hkept hb)
  all_goals
    rw [hn] at hb
    cases hb
    exact .inl (.scalar (by rw [hn]; rfl) hn.symm)

-- Following references comes to a site from which none is followed.
theorem Becomes.exists_settled (hr : root.Distinct) (hd : s.node.Distinct) (hb : Becomes root s out noted) :
    ∃ s', Visits root s s' ∧ s'.place = s.place ∧ Becomes root s' out noted ∧ Settled root s' out noted := by
  obtain ⟨levels, refs, refs', hkept, hb⟩ := hb
  induction levels generalizing s
  case zero =>
    rcases settled_or_follow hr hd hkept hb with h | ⟨_, _, _, hb'⟩
    · exact ⟨s, .refl, rfl, ⟨0, refs, refs', hkept, hb⟩, h⟩
    · exact nomatch hb'
  case succ levels hi =>
    rcases settled_or_follow hr hd hkept hb with h | ⟨s₁, hs, hp, hb'⟩
    · exact ⟨s, .refl, rfl, ⟨levels + 1, refs, refs', hkept, hb⟩, h⟩
    · obtain ⟨s', hv, hp', hb', h⟩ := hi (hs.distinct hr hd) hb'
      exact ⟨s', .head hs hv, hp'.trans hp, hb', h⟩

theorem isDefinitions_of_isVerbatim (h : isVerbatim key = true) : isDefinitions key = false := by
  simp only [isVerbatim, List.contains_eq_mem, decide_eq_true_eq, List.mem_cons, List.not_mem_nil, or_false] at h
  rcases h with rfl | rfl | rfl | rfl <;> decide

-- What is copied is found in what the site becomes.
theorem Copies.follow? (h : Copies root s q value) (hb : Becomes root s out noted) : out.follow? q = some value := by
  obtain ⟨levels, refs, refs', _, hb⟩ := hb
  cases h
  case unusable hn ht htarget =>
    simp only [hn, inlineNode, ht, inlineReference, htarget] at hb
    cases hb
    rfl
  case noObject hn ht htarget hp hr =>
    simp only [hn, inlineNode, ht, inlineReference, htarget, hp] at hb
    cases hb
    rfl
  case verbatim key hn ht hk hm =>
    rw [hn] at hb
    obtain ⟨members', rfl, hmembers⟩ := inlineNode_obj ht hb
    obtain ⟨value', hg, hin⟩ := get?_inlineMembers (isDefinitions_of_isVerbatim hk) hm hmembers
    rw [Inlined, if_pos hk] at hin
    simp [Json.atSlot?, hg, hin]

-- Where a reference is left.
theorem follow?_concat_ref {compiled : Json} : compiled.follow? (p ++ [.member "$ref"]) = some (.str ref) ↔
    ∃ members, compiled.follow? p = some (.obj members) ∧ text? members = some ref := by
  rw [Json.follow?_append, Option.bind_eq_some_iff]
  constructor
  case mp =>
    rintro ⟨node, hn, hf⟩
    cases node <;> simp [Json.atSlot?] at hf
    exact ⟨_, hn, by simp [text?, hf, Json.string?]⟩
  case mpr =>
    rintro ⟨members, hn, ht⟩
    refine ⟨_, hn, ?_⟩
    obtain ⟨value, hv, hs⟩ := Option.bind_eq_some_iff.mp ht
    cases value <;> simp [Json.string?] at hs
    simp [Json.atSlot?, hv, hs]

-- Where a text at a place of the result comes from: from a repetition, out of a value that is copied, or by itself.
inductive Origin (root : Json) (noted : RecursionMap) (place : Path) (text : String) : Prop
  | repeats {s : Site} {ancestor : String} (hv : Visits root (start root) s) (hr : s.Repeats ancestor)
    (hn : noted.has (Pointer.ofPath s.place) = true) (hp : s.place ++ [.member "$ref"] = place)
  | copied {s : Site} {q r : Path} {value : Json} (hv : Visits root (start root) s) (hc : Copies root s q value)
    (hp : s.place ++ q ++ r = place) (hf : value.follow? r = some (.str text))
  | kept {s : Site} (hv : Visits root (start root) s) (hn : s.node = .str text) (hp : s.place = place)

-- A text further down has come there at a settled site, or in what the next site becomes.
theorem Settled.origin_or_step (h : Settled root s out noted) (hv : Visits root (start root) s) (hb : Becomes root s out noted)
    (hf : out.follow? (slot :: place) = some (.str text)) : Origin root noted (s.place ++ slot :: place) text ∨
      ∃ s' v, Step root s s' ∧ s'.place = s.place ++ [slot] ∧ Becomes root s' v noted ∧ v.follow? place = some (.str text) := by
  obtain ⟨v, hslot, hfv⟩ := Option.bind_eq_some_iff.mp hf
  cases h
  case repeats ancestor h =>
    obtain ⟨rfl, hn⟩ := hb.repeats h
    cases slot <;> simp [Json.atSlot?, Dict.get?] at hslot
    obtain ⟨rfl, rfl⟩ := hslot
    cases place
    case nil => exact .inl (.repeats hv h hn rfl)
    case cons => simp [Json.atSlot?] at hfv
  case copied h => exact .inl (.copied hv h (by simp) hf)
  case members members' ho hm =>
    subst ho
    cases slot <;> simp [Json.atSlot?] at hslot
    rcases hm _ v hslot with hc | ⟨value, hs, hb'⟩
    case inl => exact .inl (.copied hv hc (by simp) hfv)
    case inr => exact .inr ⟨_, v, hs, rfl, hb', hfv⟩
  case items items' ho hi =>
    subst ho
    cases slot <;> simp [Json.atSlot?] at hslot
    obtain ⟨value, hs, hb'⟩ := hi _ v hslot
    exact .inr ⟨_, v, hs, rfl, hb', hfv⟩
  case scalar hc ho =>
    rw [ho, Json.atSlot?_of_not_isContainer hc] at hslot
    contradiction

theorem Becomes.origin (hr : root.Distinct) (hv : Visits root (start root) s) (hb : Becomes root s out noted)
    (hf : out.follow? place = some (.str text)) : Origin root noted (s.place ++ place) text := by
  induction place generalizing s out
  all_goals
    obtain ⟨s', hv', hp, hb', h⟩ := hb.exists_settled hr (hv.distinct hr hr)
    have hvs : Visits root (start root) s' := hv.trans hv'
    rw [← hp]
  case nil =>
    obtain rfl := Option.some.inj hf
    cases h
    case repeats h => exact nomatch (hb'.repeats h).1
    case copied h => exact .copied hvs h (by simp) hf
    case members ho _ => contradiction
    case items ho _ => contradiction
    case scalar ho => exact .kept hvs ho.symm (by simp)
  case cons slot place hi =>
    rcases h.origin_or_step hvs hb' hf with h | ⟨s₁, v, hs, hp₁, hb₁, hfv⟩
    case inl => exact h
    case inr =>
      have h := hi (hvs.tail hs) hb₁ hfv
      rwa [hp₁, List.append_assoc] at h

-- A reference is never kept by itself: where there is one, it is followed.
theorem place_ne_of_node_str (hv : Visits root (start root) s) (hn : s.node = .str ref) : s.place ≠ p ++ [.member "$ref"] := by
  intro hp
  cases hv
  case refl => exact absurd hp (by simp [start])
  case tail s' hv hs =>
    cases hs
    case member members key value hn' ht _ _ hm =>
      have he := (List.append_inj' hp rfl).2
      simp only [List.cons.injEq, Slot.member.injEq, and_true] at he
      obtain rfl : value = .str ref := hn
      simp [text?, ← he, hm, Json.string?] at ht
    case item => exact absurd (List.append_inj' hp rfl).2 (by simp)
    case follow => contradiction

-- A reference that is left has been noted as a repetition, or copied, but not both.
theorem has_iff_not_copied {compiled : Json} (hd : root.Distinct) (hb : Becomes root (start root) compiled noted)
    (hn : Notes (Visits root (start root)) [] noted)
    (hf : compiled.follow? (p ++ [.member "$ref"]) = some (.str ref)) :
    noted.has (Pointer.ofPath p) = true ↔ ¬Copied root p ref := by
  constructor
  case mp =>
    intro hp
    obtain ⟨ancestor, ha⟩ := Option.isSome_iff_exists.mp hp
    obtain ⟨s, hv, hr, hplace⟩ := (hn.noted _ _ ha).resolve_left (by simp)
    obtain ⟨q, out, hq, hout, _⟩ := hb.visits hd hd hv
    obtain rfl : s.place = q := hq
    obtain ⟨members, hmembers, _⟩ := follow?_concat_ref.mp hf
    exact Json.eq_of_follow? hout hmembers (Pointer.compile_injective hplace) ▸ not_copied_of_repeats hv hr
  case mpr =>
    intro hc
    have ho : Origin root noted (p ++ [.member "$ref"]) ref := hb.origin hd .refl hf
    cases ho
    case repeats hn hp => exact (List.append_inj' hp rfl).1 ▸ hn
    case copied hv hcopies hp hf => exact absurd ⟨_, _, _, _, hv, hcopies, hp, hf⟩ hc
    case kept hv hnode hp => exact absurd hp (place_ne_of_node_str hv hnode)

-- What is copied from the schema stands in what it becomes.
theorem Copied.follow? {compiled : Json} (h : Copied root p ref) (hd : root.Distinct)
    (hb : Becomes root (start root) compiled noted) : compiled.follow? (p ++ [.member "$ref"]) = some (.str ref) := by
  obtain ⟨s, q, value, r, hv, hc, hp, hf⟩ := h
  obtain ⟨q', out, hq, hout, hb'⟩ := hb.visits hd hd hv
  obtain rfl : s.place = q' := hq
  rw [← hp, Json.follow?_append, Json.follow?_append, hout, Option.bind_some, hc.follow? hb', Option.bind_some, hf]

end Settled

end Reference

-- All references at places of schemas have been resolved exactly if no value that is copied as it stands brings a
-- usable one to such a place.
theorem resolved_iff_no_usable_copied {schema : Json} (hd : schema.Distinct) :
    ∃ compiled c, Context.empty.resolve? schema = some (compiled, c) ∧ (Reference.Resolved compiled c.schemaRefs ↔
      ∀ p ref, Reference.SchemaPlace p → Reference.Copied schema p ref → Reference.target? ref = none) := by
  obtain ⟨compiled, c, hc, hb, hn⟩ := Context.exists_resolve?_visits hd
  refine ⟨compiled, c, hc, ?_⟩
  constructor
  case mp =>
    intro h p ref hp hcopied
    have hf := hcopied.follow? hd hb
    obtain ⟨members, hm, ht⟩ := Reference.follow?_concat_ref.mp hf
    exact (h p members ref hp hm ht).resolve_right fun hhas => (Reference.has_iff_not_copied hd hb hn hf).mp hhas hcopied
  case mpr =>
    intro h p members ref hp hm ht
    have hf := Reference.follow?_concat_ref.mpr ⟨members, hm, ht⟩
    by_cases hcopied : Reference.Copied schema p ref
    case pos => exact .inl (h p ref hp hcopied)
    case neg => exact .inr ((Reference.has_iff_not_copied hd hb hn hf).mpr hcopied)

theorem Reference.resolved_of_nodes {compiled : Json} {refs : RecursionMap} (hd : compiled.Distinct)
    (h : ∀ e ∈ compiled.nodes false, referred? e.2 = none ∨ refs.has e.1 = true) : Resolved compiled refs := by
  intro p members ref _ hf ht
  have h := h (Pointer.ofPath p, .obj members) ((Json.mem_nodes_iff false hd).mpr ⟨p, hf, rfl⟩)
  rwa [referred?, Json.members?, Option.bind_some, ht] at h

-- A tree with colors, which are not at hand.
def coloredTree : Json :=
  .obj [("properties", .obj [("child", .obj [("$ref", "#")]), ("color", .obj [("$ref", "colors.json")])])]

theorem coloredTree_copies_nothing_usable : ∃ compiled c, Context.empty.resolve? coloredTree = some (compiled, c) ∧
    Reference.Resolved compiled c.schemaRefs ∧
    ∀ p ref, Reference.SchemaPlace p → Reference.Copied coloredTree p ref → Reference.target? ref = none := by
  have hd : coloredTree.Distinct := by simp [coloredTree, Json.Distinct, Json.DistinctMembers, Dict.keys]
  obtain ⟨compiled, c, hc, h⟩ := resolved_iff_no_usable_copied hd
  have hr : (Reference.inline coloredTree (Reference.enoughLevels coloredTree) coloredTree "" "" []).run [] =
      some (coloredTree, [("/properties/child", "")]) := by with_unfolding_all rfl
  obtain ⟨rfl, hrefs⟩ := Prod.mk.inj (Option.some.inj ((Context.run_inline_of_resolve? hc).symm.trans hr))
  have hresolved : Reference.Resolved coloredTree c.schemaRefs := by
    rw [hrefs]
    exact Reference.resolved_of_nodes hd (by decide +kernel)
  exact ⟨coloredTree, c, hc, hresolved, h.mp hresolved⟩

-- A property named like a keyword that holds a value.
def defaultColor : Json :=
  .obj [("properties", .obj [("default", .obj [("$ref", "#/definitions/a")])]),
    ("definitions", .obj [("a", .obj [("type", "string")])])]

-- It is copied with its reference.
theorem defaultColor_is_not_resolved : ∃ compiled c, Context.empty.resolve? defaultColor = some (compiled, c) ∧
    ¬Reference.Resolved compiled c.schemaRefs := by
  obtain ⟨compiled, c, hc⟩ := Context.empty.exists_resolve? defaultColor
  have hr : (Reference.inline defaultColor (Reference.enoughLevels defaultColor) defaultColor "" "" []).run [] =
      some (.obj [("properties", .obj [("default", .obj [("$ref", "#/definitions/a")])])], []) := by with_unfolding_all rfl
  obtain ⟨rfl, hrefs⟩ := Prod.mk.inj (Option.some.inj ((Context.run_inline_of_resolve? hc).symm.trans hr))
  refine ⟨_, c, hc, fun h => ?_⟩
  rcases h [.member "properties", .member "default"] _ "#/definitions/a" (.property .root) rfl rfl with ht | hn
  · exact absurd ht (by decide +kernel)
  · simp [hrefs, Dict.has] at hn

end FormModel
