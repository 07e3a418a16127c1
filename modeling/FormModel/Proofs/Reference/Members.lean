import FormModel.Context.Reference
import FormModel.Proofs.Dict

/-!
What taking references away leaves of the members of a schema: all but the definitions, under their names
and in their order.
-/

namespace FormModel

namespace Reference

variable {α β : Type} {m : Inliner α} {f : α → Inliner β} {root value : Json}
  {expand : Json → String → String → List Enclosing → Inliner Json} {members members' : List (String × Json)}
  {source location key : String} {around : List Enclosing} {refs refs' : RecursionMap} {i : Nat}

theorem bind_eq_some {r : β × RecursionMap} :
    (m >>= f) refs = some r ↔ ∃ a refs₁, m refs = some (a, refs₁) ∧ f a refs₁ = some r := by
  show Option.bind (m refs) _ = _ ↔ _
  rcases m refs with _ | ⟨a, refs₁⟩ <;> simp [and_assoc]

-- How the value of a member has been changed: only if it holds schemas, and then by taking away references.
def Inlined (root : Json) (expand : Json → String → String → List Enclosing → Inliner Json)
    (source location : String) (around : List Enclosing) (key : String) (value value' : Json) : Prop :=
  if isVerbatim key then value' = value
  else ∃ refs refs', inlineNode root expand value (Pointer.child source key) (Pointer.child location key) around refs =
    some (value', refs')

-- What is left of members stands in the same order, each changed by itself.
theorem inlineMembers_forall₂
    (h : inlineMembers root expand members source location around refs = some (members', refs')) :
    List.Forall₂ (fun e e' => e'.1 = e.1 ∧ Inlined root expand source location around e.1 e.2 e'.2)
      (members.filter fun e => !isDefinitions e.1) members' := by
  induction members generalizing members' refs
  case nil =>
    rw [inlineMembers] at h
    obtain ⟨rfl, _⟩ := Prod.mk.inj (Option.some.inj h)
    exact .nil
  case cons e rest hi =>
    obtain ⟨key, value⟩ := e
    rw [inlineMembers] at h
    cases hk : isDefinitions key
    case true =>
      rw [if_pos hk] at h
      simpa [hk] using hi h
    case false =>
      simp only [hk, Bool.false_eq_true, if_false] at h
      simp only [hk, Bool.not_false, List.filter_cons_of_pos]
      cases hv : isVerbatim key
      case true =>
        simp only [hv, if_true, pure_bind] at h
        obtain ⟨rest', _, hr, h⟩ := bind_eq_some.mp h
        cases h
        exact .cons ⟨rfl, by simp [Inlined, hv]⟩ (hi hr)
      case false =>
        simp only [hv, Bool.false_eq_true, if_false] at h
        obtain ⟨value', _, hn, h⟩ := bind_eq_some.mp h
        obtain ⟨rest', _, hr, h⟩ := bind_eq_some.mp h
        cases h
        exact .cons ⟨rfl, by simpa [Inlined, hv] using ⟨_, _, hn⟩⟩ (hi hr)

theorem keys_inlineMembers
    (h : inlineMembers root expand members source location around refs = some (members', refs')) :
    Dict.keys members' = (Dict.keys members).filter fun key => !isDefinitions key :=
  (Dict.keys_of_forall₂ (inlineMembers_forall₂ h)).trans (Dict.keys_filter (f := fun key => !isDefinitions key))

theorem get?_inlineMembers (hk : isDefinitions key = false) (hv : Dict.get? members key = some value)
    (h : inlineMembers root expand members source location around refs = some (members', refs')) :
    ∃ value', Dict.get? members' key = some value' ∧ Inlined root expand source location around key value value' :=
  Dict.get?_of_forall₂ (inlineMembers_forall₂ h) ((Dict.get?_filter (f := fun key => !isDefinitions key) (by simp [hk])).trans hv)

theorem get?_inlineMembers_of_none (hv : Dict.get? members key = none)
    (h : inlineMembers root expand members source location around refs = some (members', refs')) :
    Dict.get? members' key = none := by
  rw [Dict.get?_eq_none, keys_inlineMembers h, List.mem_filter]
  exact fun hk => Dict.get?_eq_none.mp hv hk.1

theorem inlineNode_obj {node' : Json} (ht : text? members = none)
    (h : inlineNode root expand (.obj members) source location around refs = some (node', refs')) :
    ∃ members', node' = .obj members' ∧
      inlineMembers root expand members source location (around ++ [⟨source, location⟩]) refs = some (members', refs') := by
  simp only [inlineNode, ht] at h
  obtain ⟨members', _, hm, h⟩ := bind_eq_some.mp h
  cases h
  exact ⟨members', rfl, hm⟩

-- Names do not change.
theorem inlineItems_strings {names : List String} :
    inlineItems root expand i (names.map Json.str) source location around refs = some (names.map Json.str, refs) := by
  induction names generalizing i
  case nil => rfl
  case cons name names hi =>
    rw [List.map_cons, inlineItems]
    refine bind_eq_some.mpr ⟨.str name, refs, rfl, ?_⟩
    exact bind_eq_some.mpr ⟨_, refs, hi, rfl⟩

end Reference

-- Only the root stands around its members.
theorem Context.resolve?_obj {members : List (String × Json)} {c c' : Context} {compiled : Json}
    (ht : Reference.text? members = none) (h : c.resolve? (.obj members) = some (compiled, c')) :
    ∃ members' expand refs refs', compiled = .obj members' ∧
      Reference.inlineMembers (.obj members) expand members "" "" [⟨"", ""⟩] refs = some (members', refs') := by
  obtain ⟨⟨node, refs⟩, hi, h⟩ := Option.bind_eq_some_iff.mp h
  obtain ⟨rfl, _⟩ := Prod.mk.inj (Option.some.inj h)
  have ⟨members', he, hm⟩ := Reference.inlineNode_obj ht hi
  exact ⟨members', _, _, _, he, hm⟩

end FormModel
