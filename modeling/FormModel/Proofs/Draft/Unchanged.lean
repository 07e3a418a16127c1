import FormModel.Proofs.Draft.Everywhere

/-!
What normalizing leaves alone.  A document comes back as it went in, and no change is reported, exactly if all of its
schemas are settled.  What stands under other keywords does not matter, much as it may look like a schema of an early
draft.
-/

namespace FormModel.Draft

variable {schema value : Json} {node : Dict Json} {key : String}

-- Where all schemas of a document are settled, the document is modern.  The induction is on the depth, since the
-- schemas under `properties` stand two levels below.
theorem modern_of_settled (h : ∀ node, SchemaNode node schema → Settled node) : Modern schema := by
  induction hd : schema.depth using Nat.strongRecOn generalizing schema
  case ind depth hi =>
    subst hd
    cases schema
    case arr items =>
      refine .items fun item hm => hi _ ?_ (fun node hn => h node (.item hm hn)) rfl
      exact Nat.lt_succ_of_le (Json.depth_le_depthItems hm)
    case obj members =>
      refine .node (h members .root) fun e he inside hs => hi _ ?_ (fun node hn => h node (.inside he hs hn)) rfl
      exact Nat.lt_succ_of_le (Nat.le_trans (depth_le_of_mem_schemasAt hs) (Json.depth_le_depthMembers he))
    all_goals exact .scalar rfl

theorem modern_iff : Modern schema ↔ ∀ node, SchemaNode node schema → Settled node :=
  ⟨fun hm _ hn => hm.settled hn, modern_of_settled⟩

-- Normalizing leaves exactly the documents alone of which every schema is settled.
theorem normalize_unchanged_iff (schema : Json) :
    ((normalizeFrom .initial schema).1 = schema ∧ (normalizeFrom .initial schema).2.changed = false) ↔
      ∀ node, SchemaNode node schema → Settled node :=
  normalizeFrom_self_iff.trans modern_iff

section Literals

theorem schemasAt_of_literal (hs : holdsSchema key = false) (hn : holdsNamedSchemas key = false) :
    schemasAt key value = [] := by
  cases value <;> simp [schemasAt, hs, hn]

-- A schema with a value wherever schemas have values of their own, and under a keyword that is not known.
def literalSchema (literal : Json) : Json :=
  .obj [("$schema", .str uri6), ("type", "object"),
    ("properties", .obj [("kind", .obj [("enum", .arr [literal]), ("const", literal)])]),
    ("required", .arr ["kind"]), ("default", literal), ("examples", .arr [literal]), ("note", literal)]

theorem schemaNode_literalSchema {literal : Json} (h : SchemaNode node (literalSchema literal)) :
    .obj node = literalSchema literal ∨ node = [("enum", .arr [literal]), ("const", literal)] := by
  have hnone : ∀ {key value inside}, holdsSchema key = false → holdsNamedSchemas key = false →
      inside ∉ schemasAt key value := fun hs hn hm => by simp [schemasAt_of_literal hs hn] at hm
  cases h
  case root => exact .inl rfl
  case inside hin h hm =>
    simp only [List.mem_cons, Prod.mk.injEq, List.not_mem_nil, or_false] at hm
    -- Of the keywords only `properties` has a schema in its value.
    rcases hm with ⟨rfl, rfl⟩ | ⟨rfl, rfl⟩ | ⟨rfl, rfl⟩ | ⟨rfl, rfl⟩ | ⟨rfl, rfl⟩ | ⟨rfl, rfl⟩ | ⟨rfl, rfl⟩
    case inr.inr.inl =>
      obtain rfl := List.mem_singleton.mp hin
      cases h
      case root => exact .inr rfl
      case inside hs h hm =>
        simp only [List.mem_cons, Prod.mk.injEq, List.not_mem_nil, or_false] at hm
        rcases hm with ⟨rfl, rfl⟩ | ⟨rfl, rfl⟩ <;> exact absurd hs (hnone (by decide) (by decide))
    all_goals exact absurd hin (hnone (by decide) (by decide))

theorem settled_literalSchema {literal : Json} (h : SchemaNode node (literalSchema literal)) : Settled node := by
  rcases schemaNode_literalSchema h with h | rfl
  case inl =>
    obtain rfl := Json.obj.inj h
    refine ⟨⟨by simp [setKeys, Dict.get?], by simp [flagKeys, Dict.get?, Json.isBool], rfl, nofun, rfl, rfl, ?_, nofun⟩, ?_, ?_⟩
    · intro _ names _ hn
      obtain rfl := Json.arr.inj (Option.some.inj hn)
      exact .inl (by decide)
    · intro t ht
      obtain rfl := Option.some.inj ht
      exact .inr (by decide : "object" ∈ SchemaType.names)
    · intro uri hu
      obtain rfl := Json.str.inj (Option.some.inj hu)
      decide
  case inr => exact settled_of_get?_eq_none (by simp [preparedKeys, setKeys, flagKeys, Dict.get?])

-- The words of early drafts, in a value that is no schema.
def earlyWords : Json :=
  .obj [("type", "any"), ("extends", .obj []), ("disallow", "string"), ("divisibleBy", .ofNat 2), ("optional", .bool true),
    ("required", .bool true), ("id", "kind"), ("$schema", "http://json-schema.org/draft-03/schema#")]

theorem normalize_unchanged_literalSchema :
    (∀ node, SchemaNode node (literalSchema earlyWords) → Settled node) ∧
      (normalizeFrom .initial (literalSchema earlyWords)).1 = literalSchema earlyWords ∧
        (normalizeFrom .initial (literalSchema earlyWords)).2.changed = false :=
  have hs : ∀ node, SchemaNode node (literalSchema earlyWords) → Settled node := fun _ => settled_literalSchema
  ⟨hs, (normalize_unchanged_iff _).mpr hs⟩

end Literals

end FormModel.Draft
