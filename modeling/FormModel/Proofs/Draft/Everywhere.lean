import FormModel.Proofs.Draft.Idempotent
import FormModel.Proofs.Json.Parts

/-!
Where normalizing reaches.  If no schema of a document stands as a `type` and none stands alone in a list
inside `type` or `disallow`, then every schema of the normalized document is settled, also those in places
that normalizing has made.
-/

namespace FormModel.Draft

-- Whether a value is a list of nothing but one schema.
def IsLoneSchema (value : Json) : Prop := ∃ schema, value = .arr [.obj schema]

-- No value under the name `type` is a schema, and no list inside a value under `type` or `disallow` holds
-- a schema and nothing else.
structure PlainTypes (schema : Json) : Prop where
  type : ∀ node value, .obj node ∈ schema.parts → ("type", value) ∈ node → value.isObj = false
  lists : ∀ node key value list, .obj node ∈ schema.parts → key = "type" ∨ key = "disallow" → (key, value) ∈ node →
    list ∈ value.parts → ¬IsLoneSchema list

-- The nodes at the places of schemas in a document: the root, those in the values of the keywords that hold
-- schemas, and those in lists of them.
inductive SchemaNode : Dict Json → Json → Prop where
  | root {node : Dict Json} : SchemaNode node (.obj node)
  | item {node : Dict Json} {items : List Json} {item : Json} (hm : item ∈ items) (h : SchemaNode node item) :
    SchemaNode node (.arr items)
  | inside {node members : Dict Json} {key : String} {value schema : Json} (hm : (key, value) ∈ members)
    (hs : schema ∈ schemasAt key value) (h : SchemaNode node schema) : SchemaNode node (.obj members)

variable {schema value : Json} {node : Dict Json} {role : Role}

theorem Modern.settled (hm : Modern schema) (hn : SchemaNode node schema) : Settled node := by
  induction hn
  case root =>
    cases hm
    case scalar h => exact nomatch h
    case node hs _ => exact hs
  case item item hin _ hi =>
    cases hm
    case scalar h => exact nomatch h
    case items h => exact hi (h _ hin)
  case inside hin hs _ hi =>
    cases hm
    case scalar h => exact nomatch h
    case node _ h => exact hi (h _ hin _ hs)

section Plain

theorem PlainTypes.of_parts (h : PlainTypes schema) (hp : value.parts ⊆ schema.parts) : PlainTypes value where
  type node t hn := h.type node t (hp hn)
  lists node key t list hn := h.lists node key t list (hp hn)

theorem parts_subset_of_item {items : List Json} {item : Json} (hm : item ∈ items) : item.parts ⊆ (Json.arr items).parts :=
  fun _ hp => List.mem_cons_of_mem _ (Json.mem_partsOfItems_iff.mpr ⟨item, hm, hp⟩)

theorem parts_subset_of_member {members : Dict Json} {e : String × Json} (hm : e ∈ members) :
    e.2.parts ⊆ (Json.obj members).parts :=
  fun _ hp => List.mem_cons_of_mem _ (Json.mem_partsOfMembers_iff.mpr ⟨e, hm, hp⟩)

theorem role_of_disallowed {key : String} (h : Role.of key = .disallowed) : key = "disallow" := by
  unfold Role.of at h
  repeat' split at h
  all_goals first | assumption | contradiction

-- What is asked of a value to be free of hoists in its role: no schema in place of a type, and no lists of
-- nothing but one schema where lists of types are read.
def Admits (role : Role) (value : Json) : Prop :=
  (role = .type → value.isObj = false) ∧ (role = .type ∨ role = .disallowed → ∀ list ∈ value.parts, ¬IsLoneSchema list)

theorem admits_schema : Admits .schema value := ⟨nofun, by simp⟩

theorem PlainTypes.admits_member {members : Dict Json} (h : PlainTypes (.obj members)) {e : String × Json} (hm : e ∈ members) :
    Admits (Role.of e.1) e.2 := by
  obtain ⟨key, v⟩ := e
  constructor
  case left =>
    intro hr
    obtain rfl := Role.of_eq_type.mp hr
    exact h.type members v Json.mem_parts_self hm
  case right =>
    intro hr list
    exact h.lists members key v list Json.mem_parts_self (hr.imp Role.of_eq_type.mp role_of_disallowed) hm

theorem Admits.entry {types : List Json} {t : Json} (h : Admits role (.arr types)) (hr : role = .type ∨ role = .disallowed)
    (hm : t ∈ types) : Admits (Role.ofEntry t) t := by
  refine ⟨fun he => ?_, fun _ list hl => h.2 hr list (parts_subset_of_item hm hl)⟩
  cases ho : t.isObj
  case false => rfl
  case true => simp [Role.ofEntry, ho] at he

theorem hoistFree_of_plain (hp : PlainTypes value) (ha : Admits role value) : HoistFree role value := by
  induction value using Json.inductionInside generalizing role
  case scalar h => exact .scalar h
  case arr items hi =>
    have hi : ∀ item ∈ items, ∀ {role}, Admits role item → HoistFree role item := fun item hm _ ha =>
      hi item hm (hp.of_parts (parts_subset_of_item hm)) ha
    have hschemas : HoistFree .schema (.arr items) := .items fun item hm => hi item hm admits_schema
    cases role
    case schema => exact hschemas
    case named => exact .namedItems
    case moved => exact .moved hschemas
    case disallowed => exact .disallowed fun t hm => hi t hm (ha.entry (.inr rfl) hm)
    case type =>
      refine .types (fun t hm => hi t hm (ha.entry (.inl rfl) hm)) fun schema he => ?_
      exact ha.2 (.inl rfl) _ Json.mem_parts_self ⟨schema, congrArg Json.arr he⟩
    case other => exact .other
  case obj members hi =>
    have hi : ∀ e ∈ members, ∀ {role}, Admits role e.2 → HoistFree role e.2 := fun e hm _ ha =>
      hi e hm (hp.of_parts (parts_subset_of_member hm)) ha
    have hnode : HoistFree .schema (.obj members) := .node fun e hm => hi e hm (hp.admits_member hm)
    cases role
    case schema => exact hnode
    case named => exact .named fun e hm => hi e hm admits_schema
    case moved => exact .moved hnode
    case disallowed => exact .disallowedNode
    case type => exact nomatch ha.1 rfl
    case other => exact .other

end Plain

-- Every schema of a normalized document is settled.
theorem settled_of_schemaNode_normalize (hp : PlainTypes schema) (hn : SchemaNode node (normalize schema)) :
    Settled node :=
  (modern_normalize (hoistFree_of_plain hp admits_schema)).settled hn

theorem plainTypes_earlySchema : PlainTypes earlySchema where
  type node value hn hv := by
    simp only [earlySchema, Json.parts, Json.partsOfMembers, Json.partsOfItems, List.append_nil, List.cons_append,
      List.nil_append, List.mem_cons, List.not_mem_nil, or_false, reduceCtorEq, false_or, Json.obj.injEq] at hn
    rcases hn with rfl | rfl | rfl | rfl | rfl <;> simp_all [Json.isObj]
  lists node key value list hn hk hv hl := by
    simp only [earlySchema, Json.parts, Json.partsOfMembers, Json.partsOfItems, List.append_nil, List.cons_append,
      List.nil_append, List.mem_cons, List.not_mem_nil, or_false, reduceCtorEq, false_or, Json.obj.injEq] at hn
    -- Only the root has one of the two keywords.
    rcases hn with rfl | rfl | rfl | rfl | rfl <;> rcases hk with rfl | rfl <;> simp at hv
    subst hv
    simp only [Json.parts, Json.partsOfMembers, Json.partsOfItems, List.append_nil, List.cons_append,
      List.nil_append, List.mem_cons, List.not_mem_nil, or_false] at hl
    rcases hl with rfl | rfl | rfl | rfl | rfl | rfl <;> simp [IsLoneSchema]

-- One of the alternatives into which the types of a schema have been split, with the base schema moved into it.
theorem settled_branch_of_earlySchema :
    let branch : Dict Json := [("properties", .obj [("a", .obj [])]),
      ("allOf", .arr [.obj [("$id", "base-CONVERTED-TO-DRAFT-06#")]]), ("required", .arr ["a"])]
    SchemaNode branch (normalize earlySchema) ∧ Settled branch := by
  intro branch
  have hn : normalize earlySchema = .obj [("anyOf", .arr [.obj [("type", "string"),
    ("allOf", .arr [.obj [("$id", "base-CONVERTED-TO-DRAFT-06#")]])], .obj branch])] := by
    with_unfolding_all rfl
  have hbranch : SchemaNode branch (normalize earlySchema) := by
    rw [hn]
    exact .inside List.mem_cons_self List.mem_cons_self (.item (List.mem_cons_of_mem _ List.mem_cons_self) .root)
  exact ⟨hbranch, settled_of_schemaNode_normalize plainTypes_earlySchema hbranch⟩

end FormModel.Draft
