import FormModel.Proofs.Draft.Fixed
import FormModel.Proofs.Draft.Hoist
import FormModel.Proofs.Draft.Levels

/-!
Normalizing what is normal.  The modern schemas are the ones that normalizing leaves as they are, and where
no schema is merged into another, normalizing gives a modern schema, so that doing it again changes nothing.
-/

namespace FormModel.Draft

variable {schema : Json}

theorem quiet_initial : Quiet .initial := ⟨nofun, nofun, rfl⟩

-- The schemas that normalizing gives back without a change are the modern ones.
theorem normalizeFrom_self_iff :
    ((normalizeFrom .initial schema).1 = schema ∧ (normalizeFrom .initial schema).2.changed = false) ↔ Modern schema := by
  have hconv := convert_enoughLevels schema .initial
  constructor
  case mp =>
    intro ⟨hs, hc⟩
    have hm : Modern (normalizeFrom .initial schema).1 := modern_of_unchanged hconv hc
    rwa [hs] at hm
  case mpr =>
    intro hm
    have hd : schema.depth < enoughLevels schema := by
      have := Json.depth_le_size schema
      unfold enoughLevels
      omega
    have ⟨state', hc, hstate⟩ := convert_modern hm hd quiet_initial
    rw [hconv, Option.some.injEq] at hc
    rw [hc]
    exact ⟨rfl, hstate⟩

theorem modern_normalize (hs : HoistFree .schema schema) : Modern (normalize schema) :=
  (modern_of_hoistFree hs (convert_enoughLevels schema .initial)).1

-- Normalizing a normalized schema gives it back without a change if and only if it is modern, and it is
-- wherever no schema has been merged into another.
theorem normalize_again_iff (schema : Json) :
    let normal := normalize schema
    let again := normalizeFrom .initial normal
    ((again.1 = normal ∧ again.2.changed = false) ↔ Modern normal) ∧ (HoistFree .schema schema → Modern normal) :=
  ⟨normalizeFrom_self_iff, modern_normalize⟩

-- A schema of an early draft: alternatives in `type`, one of them a schema, and a base schema.
def earlySchema : Json :=
  .obj [("type", .arr [.str "string", .obj [("properties", .obj [("a", .obj [("required", .bool true)])])]]),
    ("extends", .obj [("id", .str "base")])]

theorem normalize_again_earlySchema :
    HoistFree .schema earlySchema ∧ (normalizeFrom .initial (normalize earlySchema)).1 = normalize earlySchema ∧
      (normalizeFrom .initial (normalize earlySchema)).2.changed = false := by
  have hs : HoistFree .schema earlySchema := by
    refine hoistFree_node.mpr (List.forall_mem_cons.mpr ⟨.types ?_ nofun, List.forall_mem_singleton.mpr (.moved ?_)⟩)
    · refine List.forall_mem_cons.mpr ⟨.scalar rfl, List.forall_mem_singleton.mpr ?_⟩
      refine .node (List.forall_mem_singleton.mpr (.named (List.forall_mem_singleton.mpr ?_)))
      exact .node (List.forall_mem_singleton.mpr (.scalar rfl))
    · exact .node (List.forall_mem_singleton.mpr (.scalar rfl))
  have ⟨hiff, hmodern⟩ := normalize_again_iff earlySchema
  exact ⟨hs, hiff.mpr (hmodern hs)⟩

-- A schema merged into another brings in a keyword after the step that would have taken it away; the next
-- time it is taken away.
theorem normalize_again_hoistedFlag :
    let normal := normalize (.obj [("type", .obj [("optional", .bool true)])])
    let again := normalizeFrom .initial normal
    again.1 ≠ normal ∧ again.2.changed = true := by
  have hn : normalize (.obj [("type", .obj [("optional", .bool true)])]) = .obj [("optional", .bool true)] := by
    with_unfolding_all rfl
  have ha : normalizeFrom .initial (.obj [("optional", .bool true)]) = (.obj [], ⟨some 2, true⟩) := by
    with_unfolding_all rfl
  dsimp only
  rw [hn, ha]
  exact ⟨nofun, rfl⟩

end FormModel.Draft
