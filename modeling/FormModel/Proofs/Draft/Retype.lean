import FormModel.Draft.Conversion

/-!
What becomes of a node whose `type` says something else than the names of standard types.
-/

namespace FormModel.Draft

-- Whether a value names standard types and nothing else.
def NamesStandardTypes : Json → Prop
  | .str t => t ∈ SchemaType.names
  | .arr names => ∀ n ∈ names, Conversion.isStandardType n = true
  | _ => False

namespace Conversion

variable {node branch : Dict Json} {e : String × Json} {t : Json}

-- What a node becomes whose `type` says something else than standard names.
inductive Retyped (node : Dict Json) : Dict Json → Prop where
  | dropped : Retyped node (node.erase "type")
  | named (t : Json) (h : NamesStandardTypes t) : Retyped node (node.insert "type" t)
  | alternatives (types : List Json) (h : declaredType node = .arr types) (hs : types.all Json.isStr = false) :
    Retyped node (("anyOf", .arr (types.map (typeBranch node))) ::
      ((node.get? "default").map (Prod.mk "default")).toList)
  | hoisted (schema : Dict Json) (h : declaredType node = .obj schema) :
    Retyped node (Dict.extend (node.erase "type") schema)

theorem isStandardType_iff : isStandardType t = true ↔ ∃ name ∈ SchemaType.names, t = .str name := by
  cases t <;> simp [isStandardType, Json.string?]

theorem namesStandardTypes_allTypes : NamesStandardTypes allTypes := by
  intro n hn
  obtain ⟨name, hm, rfl⟩ := List.mem_map.mp hn
  exact isStandardType_iff.mpr ⟨name, hm, rfl⟩

theorem retyped_convertTypes (node : Dict Json) : Retyped node (convertTypes node) := by
  unfold convertTypes
  split
  case h_1 t _ =>
    repeat' split
    · exact .named _ namesStandardTypes_allTypes
    case isTrue ht => exact .named _ (List.contains_iff_mem.mp ht)
    · exact .dropped
  case h_2 types ht =>
    split
    case isTrue =>
      split
      · exact .named _ namesStandardTypes_allTypes
      · exact .named _ fun n hn => (List.mem_filter.mp hn).2
    case isFalse hs =>
      have ha := Retyped.alternatives types ht (Bool.eq_false_iff.mpr hs)
      dsimp only
      split
      case h_1 hd => simpa [hd] using ha
      case h_2 hd => simpa [hd] using ha
  case h_3 schema ht => exact .hoisted schema ht
  case h_4 => exact .dropped

-- Members of the parent come into an alternative, but not its `type`.
theorem mem_foldl_takeOver {excluded : List String} (h : e ∈ node.foldl (takeOver excluded) branch) :
    e ∈ branch ∨ e ∈ node ∧ e.1 ≠ "type" := by
  induction node generalizing branch
  case nil => exact .inl h
  case cons p node hi =>
    rcases hi h with h | ⟨h, ht⟩
    case inr => exact .inr ⟨List.mem_cons_of_mem _ h, ht⟩
    case inl =>
      unfold takeOver at h
      split at h
      case isTrue => exact .inl h
      case isFalse hk =>
        rcases Dict.mem_insert h with rfl | h
        · exact .inr ⟨List.mem_cons_self, by simp_all⟩
        · exact .inl h

end Conversion

end FormModel.Draft
