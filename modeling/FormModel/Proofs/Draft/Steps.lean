import FormModel.Proofs.Draft.Inner

/-!
What the steps of converting a node write.  Each step changes a few keywords and leaves the others, and what
it puts into the node it has found there.
-/

namespace FormModel.Draft

-- How the value of a keyword is read on the way to draft 6.
inductive Role where
  -- A schema or an array of schemas.
  | schema
  -- Schemas under names.
  | named
  -- A schema, or an array of schemas, that is taken over into another keyword.
  | moved
  -- What `disallow` names.
  | disallowed
  -- What `type` names.
  | type
  -- Nothing with schemas in it.
  | other
  deriving DecidableEq, Repr

-- The role of the value of a keyword.
def Role.of (key : String) : Role :=
  if holdsSchema key then .schema
  else if holdsNamedSchemas key then .named
  else if key = "extends" ∨ key = "requires" then .moved
  else if key = "disallow" then .disallowed
  else if key = "type" then .type
  else .other

variable {key : String}

theorem Role.of_holdsSchema (h : holdsSchema key = true) : Role.of key = .schema := by simp [Role.of, h]

theorem Role.of_holdsNamedSchemas (h : holdsNamedSchemas key = true) : Role.of key = .named := by
  have hs : holdsSchema key = false := Bool.eq_false_iff.mpr fun hs => by simp [not_holdsNamedSchemas hs] at h
  simp [Role.of, h, hs]

theorem Role.of_eq_type : Role.of key = .type ↔ key = "type" := by
  constructor
  case mp =>
    intro h
    unfold Role.of at h
    repeat' split at h
    all_goals first | assumption | contradiction
  case mpr =>
    rintro rfl
    rfl

namespace Conversion

variable {r : Conversion} {k limit flag exclusive : String} {v : Json} {n : Nat} {state : DraftState}
  {declared : Dict Json}

section Keywords

@[simp] theorem get?_withState : get? ⟨r.node, state⟩ key = r.get? key := rfl

@[simp] theorem get?_touch : r.touch.get? key = r.get? key := rfl

@[simp] theorem get?_assume : (r.assume n).get? key = r.get? key := rfl

@[simp] theorem get?_drop : (r.drop k).get? key = if key = k then none else r.get? key := by
  simp only [eq_comm (a := key)]
  exact Dict.get?_erase ..

@[simp] theorem get?_put : (r.put k v).get? key = if key = k then some v else r.get? key := by
  simp only [eq_comm (a := key)]
  exact Dict.get?_insert ..

@[simp] theorem get?_takeExtended {members : List Json} (h : key ∉ ["extends", "allOf"]) :
    (r.takeExtended members).get? key = r.get? key := by
  simp_all [takeExtended]

@[simp] theorem get?_disallow (h : key ∉ ["disallow", "not"]) : r.disallow.get? key = r.get? key := by
  unfold disallow
  repeat' split
  all_goals simp_all

@[simp] theorem get?_dependencyNames (h : key ≠ "dependencies") : r.dependencyNames.get? key = r.get? key := by
  unfold dependencyNames
  repeat' split
  all_goals simp_all

@[simp] theorem get?_maxDecimal (h : key ∉ ["maxDecimal", "multipleOf", "divisibleBy"]) :
    r.maxDecimal.get? key = r.get? key := by
  unfold maxDecimal
  dsimp only
  repeat' split
  all_goals simp_all

@[simp] theorem get?_divisibleBy (h : key ∉ ["divisibleBy", "multipleOf"]) :
    r.divisibleBy.get? key = r.get? key := by
  unfold divisibleBy
  split <;> simp_all

@[simp] theorem get?_makeExclusive (h : key ∉ [limit, exclusive]) :
    (r.makeExclusive limit exclusive).get? key = r.get? key := by
  unfold makeExclusive
  split <;> simp_all

@[simp] theorem get?_canEqual (h : key ∉ [limit, flag, exclusive]) :
    (canEqual limit flag exclusive r).get? key = r.get? key := by
  unfold canEqual
  repeat' split
  all_goals simp_all

@[simp] theorem get?_exclusiveFlag (h : key ∉ [limit, exclusive]) :
    (exclusiveFlag limit exclusive r).get? key = r.get? key := by
  unfold exclusiveFlag
  repeat' split
  all_goals simp_all

@[simp] theorem get?_convertLimit (h : key ∉ [limit, flag, exclusive]) :
    (convertLimit limit flag exclusive r).get? key = r.get? key := by
  simp_all [convertLimit]

@[simp] theorem get?_collectRequired (h : key ≠ "required") :
    (collectRequired declared r).get? key = r.get? key := by
  unfold collectRequired
  dsimp only
  repeat' split
  all_goals simp_all

@[simp] theorem get?_collectRequires (h : key ≠ "dependencies") :
    (collectRequires declared r).get? key = r.get? key := by
  unfold collectRequires
  split <;> simp_all

@[simp] theorem get?_properties (h : key ∉ ["required", "dependencies"]) :
    r.properties.get? key = r.get? key := by
  unfold Conversion.properties
  split <;> simp_all

@[simp] theorem get?_flags (h : key ∉ ["optional", "requires", "required"]) : r.flags.get? key = r.get? key := by
  unfold flags
  dsimp only
  repeat' split
  all_goals simp_all

@[simp] theorem get?_identifier (h : key ∉ ["id", "$id"]) : r.identifier.get? key = r.get? key := by
  unfold identifier
  repeat' split
  all_goals simp_all

@[simp] theorem get?_schemaUri (h : key ∉ ["$schema", "description"]) : r.schemaUri.get? key = r.get? key := by
  unfold schemaUri
  dsimp only
  repeat' split
  all_goals simp_all

end Keywords

-- All steps between `extends` and `type`.
def prepare (r : Conversion) : Conversion :=
  r.disallow.dependencyNames.maxDecimal.divisibleBy.limits.properties.flags.identifier

theorem finish_eq_prepare : r.finish = r.prepare.types := rfl

section Values

variable {P : Role → Json → Prop}

-- The values of all keywords satisfy `P`, each in its role.
def Holds (P : Role → Json → Prop) (r : Conversion) : Prop := ∀ e ∈ r.node, P (Role.of e.1) e.2

-- What holds of the values of a node also holds of those that the steps make out of them.
structure Carried (P : Role → Json → Prop) : Prop where
  other : ∀ v, P .other v
  disallowedName : ∀ t, P .disallowed (.str t) → P .schema (.obj [("type", .str t)])
  disallowedNames : ∀ types, P .disallowed (.arr types) →
    P .schema (.obj [("anyOf", .arr (types.map fun t => .obj (entryMembers t)))])
  named : ∀ members, P .named (.obj members) ↔ ∀ e ∈ members, P .schema e.2
  nameList : ∀ v, P .schema v → P .schema (nameList v)
  requires : ∀ p v, P .schema p → p.member? "requires" = some v → P .schema v

theorem exists_of_mem_members {e : String × Json} (h : e ∈ ((r.get? key).bind Json.members?).getD []) :
    ∃ members, r.get? key = some (.obj members) ∧ e ∈ members := by
  cases hm : (r.get? key).bind Json.members?
  case none => simp [hm] at h
  case some members =>
    obtain ⟨v, hv, hm'⟩ := Option.bind_eq_some_iff.mp hm
    cases v <;> cases hm'
    exact ⟨members, hv, by simpa [hm] using h⟩

theorem mem_addRequires {deps : Dict Json} {e : String × Json} (h : e ∈ addRequires declared deps) :
    e ∈ deps ∨ ∃ p ∈ declared, ∃ v, p.2.member? "requires" = some v ∧ e.2 = nameList v := by
  induction declared generalizing deps
  case nil => exact .inl h
  case cons p declared hi =>
    rcases hi h with h | ⟨p', hp, h⟩
    case inr => exact .inr ⟨p', List.mem_cons_of_mem _ hp, h⟩
    case inl =>
      dsimp only at h
      split at h
      case h_1 s hs =>
        rcases Dict.mem_insert h with rfl | h
        · exact .inr ⟨p, List.mem_cons_self, _, hs, rfl⟩
        · exact .inl h
      case h_2 v hn hs =>
        split at h
        case isTrue =>
          rcases Dict.mem_insert h with rfl | h
          · refine .inr ⟨p, List.mem_cons_self, _, hs, ?_⟩
            cases v <;> first | rfl | exact absurd rfl (hn _)
          · exact .inl h
        case isFalse => exact .inl h
      case h_3 => exact .inl h

namespace Carried

variable {value value' schema : Json} {changed : Bool} {convert : Json → DraftState → Option (Json × DraftState)}

theorem schemaAt (hP : Carried P) (h : P (Role.of key) value) (hs : schema ∈ schemasAt key value) : P .schema schema := by
  cases value
  case obj members =>
    simp only [schemasAt] at hs
    split at hs
    case isTrue hk =>
      obtain ⟨e, he, rfl⟩ := List.mem_map.mp hs
      rw [Role.of_holdsNamedSchemas hk] at h
      exact (hP.named _).mp h e he
    case isFalse =>
      split at hs
      case isTrue hk => exact List.mem_singleton.mp hs ▸ Role.of_holdsSchema hk ▸ h
      case isFalse => exact absurd hs List.not_mem_nil
  case arr items =>
    simp only [schemasAt] at hs
    split at hs
    case isTrue hk => exact List.mem_singleton.mp hs ▸ Role.of_holdsSchema hk ▸ h
    case isFalse => exact absurd hs List.not_mem_nil
  all_goals exact absurd hs List.not_mem_nil

theorem converted (hP : Carried P) (h : Converted convert state changed key value value') (hv : P (Role.of key) value)
    (hi : ∀ {inside inside' inner}, P .schema inside → convert inside state = some (inside', inner) →
      P .schema inside') : P (Role.of key) value' := by
  cases h
  case schema hk _ _ _ hc =>
    rw [Role.of_holdsSchema hk] at hv ⊢
    exact hi hv hc
  case named hk members members' hm =>
    rw [Role.of_holdsNamedSchemas hk] at hv ⊢
    refine (hP.named _).mpr fun e' he' => ?_
    have ⟨e, he, _, _, hc, _⟩ := exists_mem_of_forall₂ hm he'
    exact hi ((hP.named _).mp hv e he) hc
  case alone => exact hv

end Carried

namespace Holds

theorem get? (h : r.Holds P) (hv : r.get? key = some v) : P (Role.of key) v := h _ (Dict.mem_of_get? hv)

theorem drop (h : r.Holds P) : (r.drop k).Holds P := fun e he => h e (List.mem_of_mem_filter he)

theorem put (h : r.Holds P) (hv : P (Role.of k) v) : (r.put k v).Holds P := by
  intro e he
  rcases Dict.mem_insert he with rfl | he
  · exact hv
  · exact h e he

theorem touch (h : r.Holds P) : r.touch.Holds P := h

theorem assume (h : r.Holds P) : (r.assume n).Holds P := h

theorem readDraft (h : r.Holds P) : r.readDraft.Holds P := by
  unfold Conversion.readDraft
  split <;> exact h

variable (hP : Carried P)

include hP

theorem putOther (h : r.Holds P) (hk : Role.of k = .other) : (r.put k v).Holds P := h.put (hk ▸ hP.other v)

theorem contentEncoding (h : r.Holds P) : r.contentEncoding.Holds P := by
  unfold Conversion.contentEncoding
  repeat' split
  all_goals first | exact h | exact (h.drop.putOther hP rfl).touch

theorem disallow (h : r.Holds P) : r.disallow.Holds P := by
  unfold Conversion.disallow
  split
  case isFalse => exact h
  case isTrue =>
    split
    case h_1 t ht => exact h.drop.touch.put (hP.disallowedName t (h.get? ht))
    case h_2 types ht => exact h.drop.touch.put (hP.disallowedNames types (h.get? ht))
    case h_3 => exact h.drop.touch

theorem dependencyNames (h : r.Holds P) : r.dependencyNames.Holds P := by
  unfold Conversion.dependencyNames
  split
  case h_1 deps hd =>
    split
    case isTrue =>
      refine (h.put (k := "dependencies") ((hP.named _).mpr fun e he => ?_)).touch
      obtain ⟨e', he', rfl⟩ := List.mem_map.mp he
      exact hP.nameList _ ((hP.named _).mp (h.get? hd) e' he')
    case isFalse => exact h
  case h_2 => exact h

theorem maxDecimal (h : r.Holds P) : r.maxDecimal.Holds P := by
  unfold Conversion.maxDecimal
  split
  case h_1 =>
    dsimp only
    split <;> exact ((h.putOther hP rfl).drop.drop).touch
  case h_2 => exact h

theorem divisibleBy (h : r.Holds P) : r.divisibleBy.Holds P := by
  unfold Conversion.divisibleBy
  split
  case h_1 => exact (h.drop.putOther hP rfl).touch
  case h_2 => exact h

theorem makeExclusive (h : r.Holds P) (hx : Role.of exclusive = .other) : (r.makeExclusive limit exclusive).Holds P := by
  unfold Conversion.makeExclusive
  split
  case h_1 => exact h.drop.putOther hP hx
  case h_2 => exact h

theorem canEqual (h : r.Holds P) (hx : Role.of exclusive = .other) : (canEqual limit flag exclusive r).Holds P := by
  unfold Conversion.canEqual
  repeat' split
  · exact (h.makeExclusive hP hx).drop.touch.assume
  · exact h.drop.touch.assume
  · exact h

theorem exclusiveFlag (h : r.Holds P) (hx : Role.of exclusive = .other) : (exclusiveFlag limit exclusive r).Holds P := by
  unfold Conversion.exclusiveFlag
  repeat' split
  · exact (h.makeExclusive hP hx).touch
  · exact h.drop.touch
  · exact h

theorem convertLimit (h : r.Holds P) (hx : Role.of exclusive = .other) : (convertLimit limit flag exclusive r).Holds P :=
  (h.canEqual hP hx).exclusiveFlag hP hx

theorem limits (h : r.Holds P) : r.limits.Holds P := (h.convertLimit hP rfl).convertLimit hP rfl

theorem collectRequired (h : r.Holds P) : (collectRequired declared r).Holds P := by
  unfold Conversion.collectRequired
  dsimp only
  repeat' split
  all_goals first | exact h | exact h.putOther hP rfl

theorem collectRequires (h : r.Holds P) (hp : P .named (.obj declared)) : (collectRequires declared r).Holds P := by
  unfold Conversion.collectRequires
  split
  case isTrue =>
    refine (h.put (k := "dependencies") ((hP.named _).mpr fun e he => ?_)).touch.assume
    rcases mem_addRequires he with he | ⟨p, hm, v, hv, he⟩
    · have ⟨deps, hd, he⟩ := exists_of_mem_members he
      exact (hP.named _).mp (h.get? hd) e he
    · exact he ▸ hP.nameList _ (hP.requires _ _ ((hP.named _).mp hp p hm) hv)
  case isFalse => exact h

theorem properties (h : r.Holds P) : r.properties.Holds P := by
  unfold Conversion.properties
  split
  case h_1 hp => exact (h.collectRequired hP).collectRequires hP (h.get? hp)
  case h_2 => exact h

omit hP in
theorem flags (h : r.Holds P) : r.flags.Holds P := by
  unfold Conversion.flags
  dsimp only
  repeat' split
  all_goals first | exact h | exact h.drop | exact h.drop.drop | exact h.drop.drop.drop

theorem identifier (h : r.Holds P) : r.identifier.Holds P := by
  unfold Conversion.identifier
  repeat' split
  all_goals first | exact h | exact (h.drop.putOther hP rfl).touch

theorem schemaUri (h : r.Holds P) : r.schemaUri.Holds P := by
  unfold Conversion.schemaUri
  split
  case h_1 => exact h
  case h_2 =>
    dsimp only
    repeat' split
    all_goals first | exact h | exact (h.putOther hP rfl).touch | exact h.drop.putOther hP rfl

theorem start {node : Dict Json} (h : ∀ e ∈ node, P (Role.of e.1) e.2) : (start node state).Holds P :=
  (readDraft (r := ⟨node, state⟩) h).contentEncoding hP

theorem prepare (h : r.Holds P) : r.prepare.Holds P :=
  (((((((h.disallow hP).dependencyNames hP).maxDecimal hP).divisibleBy hP).limits hP).properties hP).flags).identifier hP

end Holds

end Values

end Conversion

end FormModel.Draft
