import FormModel.Context.Reference
import FormModel.Proofs.Json.Parts
import FormModel.Proofs.Unseen

/-!
Taking references away comes to an end.  A reference is followed only to a place that is not around it,
so every reference followed inside another one uses up one of the places that the schema refers to.
-/

namespace FormModel

namespace Reference

variable {root node : Json} {members : Dict Json} {items : List Json} {target source location : String}
  {around : List Enclosing} {enclosing : Enclosing} {α β : Type} {m : Inliner α} {f : α → Inliner β} {n : Nat}
  {expand : Json → String → String → List Enclosing → Inliner Json}

-- The place that a schema refers to.
def referred? (schema : Json) : Option String := (schema.members?.bind text?).bind target?

-- The places that are referred to anywhere in a schema.
def targets (root : Json) : List String := root.parts.filterMap referred?

-- Whether all references in a schema are references of the root too.
def RefersWithin (root node : Json) : Prop := ∀ j ∈ node.parts, ∀ target, referred? j = some target → target ∈ targets root

-- How many of the places referred to are not around.
def openTargets (root : Json) (around : List Enclosing) : Nat :=
  unseen (fun target => (placed? around target).isSome) (targets root)

theorem refersWithin_root : RefersWithin root root := fun j hj _ ht => List.mem_filterMap.mpr ⟨j, hj, ht⟩

theorem placed?_append : placed? (around ++ [enclosing]) target =
    (placed? around target).or (if enclosing.source = target then some enclosing.location else none) := by
  simp only [placed?, List.find?_append, Option.map_or]
  congr 1
  by_cases h : enclosing.source = target <;> simp [h]

theorem isSome_placed?_append (h : (placed? around target).isSome) :
    (placed? (around ++ [enclosing]) target).isSome := by
  rw [placed?_append, Option.isSome_or, h, Bool.true_or]

theorem openTargets_append_le : openTargets root (around ++ [enclosing]) ≤ openTargets root around :=
  unseen_le fun _ => isSome_placed?_append

theorem openTargets_append_lt (hs : enclosing.source ∈ targets root) (hp : placed? around enclosing.source = none) :
    openTargets root (around ++ [enclosing]) < openTargets root around :=
  unseen_lt (fun _ => isSome_placed?_append) hs (by rw [hp]; rfl) (by simp [placed?_append, hp])

theorem RefersWithin.of_subset (h : RefersWithin root node) {j : Json} (hj : ∀ v ∈ j.parts, v ∈ node.parts) :
    RefersWithin root j := fun v hv => h v (hj v hv)

-- The schema put in place of a reference is one of the root, or empty, with what stands beside the reference.
theorem exists_of_referred {merged : Dict Json} (h : referred root target members = .obj merged) :
    ∃ schema, merged = Dict.extend schema (Dict.erase members "$ref") ∧
      ((∃ tokens, root.getTokens? tokens = some (.obj schema)) ∨ schema = []) := by
  unfold referred at h
  split at h
  case h_1 schema hs =>
    obtain ⟨tokens, _, hs⟩ := Option.bind_eq_some_iff.mp hs
    exact ⟨schema, (Json.obj.inj h).symm, .inl ⟨tokens, hs⟩⟩
  case h_2 hno _ => exact absurd h (hno _)
  case h_3 => exact ⟨[], (Json.obj.inj h).symm, .inr rfl⟩

-- What is inside this schema has been inside the root, or beside the reference.
theorem mem_parts_referred {merged : Dict Json} {j : Json} (h : referred root target members = .obj merged)
    (hj : j ∈ (Json.obj merged).parts) : j = .obj merged ∨ j ∈ root.parts ∨ j ∈ (Json.obj members).parts := by
  refine (List.mem_cons.mp hj).imp_right fun hj => ?_
  obtain ⟨schema, rfl, hs⟩ := exists_of_referred h
  obtain ⟨e, he, hj⟩ := Json.mem_partsOfMembers_iff.mp hj
  rcases Dict.mem_extend he with he | he
  case inl =>
    rcases hs with ⟨tokens, hs⟩ | rfl
    case inl => exact .inl (Json.mem_parts_of_getTokens? hs (List.mem_cons_of_mem _ (Json.mem_partsOfMembers_iff.mpr ⟨e, he, hj⟩)))
    case inr => contradiction
  case inr => exact .inr (List.mem_cons_of_mem _ (Json.mem_partsOfMembers_iff.mpr ⟨e, (List.mem_filter.mp he).1, hj⟩))

-- The schema put in place of a reference has the references of the one referred to, and those beside it.
theorem refersWithin_referred {merged : List (String × Json)} (hn : RefersWithin root (.obj members))
    (h : referred root target members = .obj merged) : RefersWithin root (.obj merged) := by
  intro j hj t ht
  rcases mem_parts_referred h hj with rfl | hj | hj
  case inl =>
    obtain ⟨schema, rfl, hs⟩ := exists_of_referred h
    have hbeside : ∀ e ∈ Dict.erase members "$ref", e.1 ≠ "$ref" := fun e he => by
      simpa using (List.mem_filter.mp he).2
    rw [referred?, Json.members?, Option.bind_some, text?, Dict.get?_extend_of_not_mem hbeside] at ht
    rcases hs with ⟨tokens, hs⟩ | rfl
    case inl => exact List.mem_filterMap.mpr ⟨.obj schema, Json.mem_parts_of_getTokens? hs Json.mem_parts_self, ht⟩
    case inr => contradiction
  case inr.inl => exact List.mem_filterMap.mpr ⟨j, hj, ht⟩
  case inr.inr => exact hn j hj t ht

-- Whether a piece of the way comes to an end, whatever has been noted before.
def Ends (m : Inliner α) : Prop := ∀ refs, ∃ r, m refs = some r

theorem Ends.pure {a : α} : Ends (pure a) := fun refs => ⟨(a, refs), rfl⟩

theorem Ends.bind (h : Ends m) (hf : ∀ a, Ends (f a)) : Ends (m >>= f) := fun refs => by
  have ⟨⟨a, refs'⟩, hm⟩ := h refs
  have ⟨r, hr⟩ := hf a refs'
  refine ⟨r, ?_⟩
  show Option.bind (m refs) _ = some r
  rw [hm]
  exact hr

-- Whether references can be followed as long as less than `n` places referred to are not around.
def EndsBelow (root : Json) (expand : Json → String → String → List Enclosing → Inliner Json) (n : Nat) : Prop :=
  ∀ {merged target location around}, RefersWithin root merged → openTargets root around < n →
    Ends (expand merged target location around)

theorem ends_inlineReference (he : EndsBelow root expand n) {ref location : String} (ht : text? members = some ref)
    (hn : RefersWithin root (.obj members)) (hl : openTargets root around ≤ n) :
    Ends (inlineReference root expand ref members location around) := by
  unfold inlineReference
  split
  case h_1 => exact .pure
  case h_2 target htarget =>
    have hm : target ∈ targets root := hn _ Json.mem_parts_self _ (by simp [referred?, Json.members?, ht, htarget])
    split
    case h_1 => exact Ends.bind (fun refs => ⟨_, rfl⟩) fun _ => .pure
    case h_2 hp =>
      split
      case h_1 merged hmerged =>
        exact he (refersWithin_referred hn hmerged) (Nat.lt_of_lt_of_le (openTargets_append_lt hm hp) hl)
      case h_2 => exact .pure

-- Members come to an end if those do that are gone into, and items if all of them do.
theorem ends_inlineMembers (h : ∀ e ∈ members, isDefinitions e.1 = false → isVerbatim e.1 = false →
      Ends (inlineNode root expand e.2 (Pointer.child source e.1) (Pointer.child location e.1) around)) :
    Ends (inlineMembers root expand members source location around) := by
  induction members
  case nil => exact .pure
  case cons e rest hi =>
    have ⟨he, h⟩ := List.forall_mem_cons.mp h
    have hrest := hi h
    unfold inlineMembers
    split
    case isTrue => exact hrest
    case isFalse hd =>
      split
      case isTrue => exact Ends.pure.bind fun _ => hrest.bind fun _ => .pure
      case isFalse hv =>
        exact (he (Bool.eq_false_iff.mpr hd) (Bool.eq_false_iff.mpr hv)).bind fun _ => hrest.bind fun _ => .pure

theorem ends_inlineItems {i : Nat} (h : ∀ k, (hk : k < items.length) →
      Ends (inlineNode root expand items[k] (source ++ "/" ++ toString (i + k)) (location ++ "/" ++ toString (i + k)) around)) :
    Ends (inlineItems root expand i items source location around) := by
  induction items generalizing i
  case nil => exact .pure
  case cons item rest hi =>
    have hrest : Ends (inlineItems root expand (i + 1) rest source location around) := hi fun k hk => by
      have h := h (k + 1) (Nat.succ_lt_succ hk)
      rwa [← Nat.add_assoc, Nat.add_right_comm] at h
    exact (h 0 (Nat.zero_lt_succ _)).bind fun _ => hrest.bind fun _ => .pure

theorem ends_inlineNode (he : EndsBelow root expand n) (hn : RefersWithin root node) (hl : openTargets root around ≤ n) :
    Ends (inlineNode root expand node source location around) := by
  induction node using Json.inductionInside generalizing source location around
  case scalar j hj => cases j <;> first | exact .pure | exact nomatch hj
  case arr items hi =>
    unfold inlineNode
    refine (ends_inlineItems fun k hk => hi _ (List.getElem_mem hk) (hn.of_subset fun v hv => ?_) hl).bind fun _ => .pure
    exact List.mem_cons_of_mem _ (Json.mem_partsOfItems_iff.mpr ⟨_, List.getElem_mem hk, hv⟩)
  case obj members hi =>
    unfold inlineNode
    split
    case h_1 ref ht => exact ends_inlineReference he ht hn hl
    case h_2 =>
      refine (ends_inlineMembers fun e hm _ _ => hi e hm (hn.of_subset fun v hv => ?_)
        (Nat.le_trans openTargets_append_le hl)).bind fun _ => .pure
      exact List.mem_cons_of_mem _ (Json.mem_partsOfMembers_iff.mpr ⟨e, hm, hv⟩)

theorem ends_inline {levels : Nat} (hn : RefersWithin root node)
    (hl : openTargets root around < levels) : Ends (inline root levels node source location around) := by
  induction levels generalizing node source location around
  case zero => contradiction
  case succ levels hi => exact ends_inlineNode hi hn (Nat.le_of_lt_succ hl)

theorem openTargets_le : openTargets root around ≤ root.size :=
  Nat.le_trans unseen_le_length (Nat.le_trans (List.length_filterMap_le ..) (Nat.le_of_eq (Json.length_parts root)))

end Reference

-- The references of a schema always come to an end, and so does noting what is left of them.
theorem Context.exists_resolve? (c : Context) (schema : Json) :
    ∃ compiled c', c.resolve? schema = some (compiled, c') := by
  have hl : Reference.openTargets schema [] < Reference.enoughLevels schema :=
    Nat.lt_succ_of_le (Nat.le_succ_of_le Reference.openTargets_le)
  have he : Reference.Ends (Reference.inline schema (Reference.enoughLevels schema) schema "" "" []) :=
    Reference.ends_inline Reference.refersWithin_root hl
  have ⟨⟨compiled, refs⟩, hr⟩ := he c.schemaRefs
  refine ⟨compiled, Reference.recordNode compiled compiled "" { c with schemaRefs := refs }, ?_⟩
  rw [resolve?, StateT.run, hr]
  rfl

end FormModel
