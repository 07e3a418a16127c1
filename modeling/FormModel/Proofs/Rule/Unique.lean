import FormModel.Proofs.Json.Reading
import FormModel.Rule

/-!
Items that come more than once.  Sorting their texts brings the copies of one item together, and since values with one
text are one value, what is found among neighbours is what comes more than once.
-/

namespace FormModel

namespace Json

variable {i j : Json} {items : List Json} {members : List (String × Json)} {v : Json} {texts : List String} {t : String}

section Same

theorem sameItems_self (h : ∀ j ∈ items, j.same j = true) : sameItems items items = true := by
  induction items
  case nil => rfl
  case cons j items hi =>
    have ⟨hj, hitems⟩ := List.forall_mem_cons.mp h
    rw [sameItems, hj, hi hitems]
    rfl

theorem sameMembers_of_forall {other : List (String × Json)}
    (h : ∀ e ∈ members, Dict.get? other e.1 = some e.2 ∧ e.2.same e.2 = true) : sameMembers members other = true := by
  induction members
  case nil => rfl
  case cons e members hi =>
    have ⟨⟨hg, he⟩, hmembers⟩ := List.forall_mem_cons.mp h
    obtain ⟨name, j⟩ := e
    simp only at hg he
    rw [sameMembers, hg, hi hmembers]
    simp [he]

theorem same_self (hd : j.Distinct) : j.same j = true := by
  induction j using inductionInside
  case scalar j hj =>
    cases j <;> try contradiction
    case null => rfl
    case bool => exact beq_self_eq_true _
    case str => exact beq_self_eq_true _
    case num x =>
      cases x
      case int => exact beq_self_eq_true _
      case float f hf =>
        refine Float.beq_self_iff.mpr ?_
        rintro rfl
        exact absurd hf (by decide)
  case arr items hi => exact sameItems_self fun j hj => hi j hj (distinctItems_iff.mp hd j hj)
  case obj members hi =>
    rw [same, sameMembers_of_forall fun e he =>
      ⟨Dict.get?_of_mem hd.1 he, hi e he (distinctMembers_iff.mp hd.2 e he)⟩, beq_self_eq_true]
    rfl

end Same

end Json

namespace Rule

variable {items found : List Json} {u v : Json} {texts : List String} {s t : String}

section Neighbours

-- The texts that are followed by themselves.
def repeatedTexts (texts : List String) : List String :=
  (texts.zip texts.tail).filterMap fun (a, b) => if a = b then some a else none

theorem repeatedTexts_cons_cons :
    repeatedTexts (s :: t :: texts) = if s = t then s :: repeatedTexts (t :: texts) else repeatedTexts (t :: texts) := by
  simp only [repeatedTexts, List.tail_cons, List.zip_cons_cons, List.filterMap_cons]
  split <;> simp_all

-- In a sorted list all copies of a text are neighbours.
theorem mem_repeatedTexts_iff (hs : texts.Pairwise (· ≤ ·)) : t ∈ repeatedTexts texts ↔ texts.Duplicate t := by
  induction texts
  case nil => simp [repeatedTexts]
  case cons a texts hi =>
    cases texts
    case nil => simp [repeatedTexts]
    case cons b texts =>
      have ⟨ha, hs⟩ := List.pairwise_cons.mp hs
      have hb := (List.pairwise_cons.mp hs).1
      have hmem : a ∈ b :: texts ↔ a = b := by
        refine ⟨fun h => ?_, fun h => h ▸ List.mem_cons_self⟩
        rcases List.mem_cons.mp h with h | h
        case inl => exact h
        case inr => exact String.le_antisymm (ha b List.mem_cons_self) (hb a h)
      rw [repeatedTexts_cons_cons, List.duplicate_cons_iff, ← hi hs]
      split
      case isTrue hab =>
        subst hab
        rw [List.mem_cons]
        refine or_congr_left ⟨fun h => ⟨h.symm, h ▸ List.mem_cons_self⟩, fun h => h.1.symm⟩
      case isFalse hab =>
        refine ⟨.inr, Or.rec (fun h => ?_) id⟩
        obtain ⟨rfl, h⟩ := h
        exact absurd (hmem.mp h) hab

end Neighbours

section Found

-- Values in the order in which they come, each of them once.
def once (values : List Json) : List Json :=
  values.foldl (fun found item => if found.any (·.same item) then found else found ++ [item]) []

theorem once_append_singleton {values : List Json} :
    once (values ++ [v]) = if (once values).any (·.same v) then once values else once values ++ [v] := by
  simp [once, List.foldl_append]

theorem mem_of_mem_once {values : List Json} (h : v ∈ once values) : v ∈ values := by
  induction values using List.reverseRecOn
  case nil => exact h
  case append_singleton values w hi =>
    rw [once_append_singleton] at h
    split at h
    case isTrue => exact List.mem_append_left _ (hi h)
    case isFalse =>
      rcases List.mem_append.mp h with h | h
      · exact List.mem_append_left _ (hi h)
      · exact List.mem_append_right _ h

theorem pairwise_once {values : List Json} : (once values).Pairwise fun u v => u.same v = false := by
  induction values using List.reverseRecOn
  case nil => exact .nil
  case append_singleton values w hi =>
    rw [once_append_singleton]
    split
    case isTrue => exact hi
    case isFalse hn =>
      refine List.pairwise_append.mpr ⟨hi, List.pairwise_singleton _ _, fun u hu v hv => ?_⟩
      obtain rfl := List.mem_singleton.mp hv
      simpa using fun hs => hn (List.any_eq_true.mpr ⟨u, hu, hs⟩)

theorem exists_mem_once {values : List Json} (h : v ∈ values) (hv : v.same v = true) : ∃ u ∈ once values, u.same v = true := by
  induction values using List.reverseRecOn
  case nil => contradiction
  case append_singleton values w hi =>
    rw [once_append_singleton]
    rcases List.mem_append.mp h with h | h
    case inl =>
      obtain ⟨u, hu, hs⟩ := hi h
      refine ⟨u, ?_, hs⟩
      split
      case isTrue => exact hu
      case isFalse => exact List.mem_append_left _ hu
    case inr =>
      obtain rfl := List.mem_singleton.mp h
      split
      case isTrue ha => exact List.any_eq_true.mp ha
      case isFalse => exact ⟨v, List.mem_append_right _ h, hv⟩

end Found

theorem duplicates_eq : duplicates items =
    once ((repeatedTexts ((items.map Json.compact).mergeSort fun a b => a ≤ b)).filterMap Json.parse?) := by
  rw [once, repeatedTexts, List.filterMap_filterMap, List.foldl_filterMap, duplicates]
  congr 1
  funext found pair
  obtain ⟨a, b⟩ := pair
  by_cases h : a = b <;> simp [h]
  cases Json.parse? b <;> rfl

theorem duplicate_map_iff {α β : Type} {f : α → β} (hf : Function.Injective f) {as : List α} {b : β} :
    (as.map f).Duplicate b ↔ ∃ a, as.Duplicate a ∧ f a = b := by
  induction as
  case nil => simp
  case cons a as hi =>
    simp only [List.map_cons, List.duplicate_cons_iff, hi, List.mem_map]
    constructor
    case mp =>
      rintro (⟨rfl, a', ha', he⟩ | ⟨a', ha', rfl⟩)
      · obtain rfl := hf he
        exact ⟨a', .inl ⟨rfl, ha'⟩, rfl⟩
      · exact ⟨a', .inr ha', rfl⟩
    case mpr =>
      rintro ⟨a', ⟨rfl, ha'⟩ | ha', rfl⟩
      · exact .inl ⟨rfl, a, ha', rfl⟩
      · exact .inr ⟨a', ha', rfl⟩

-- What is noted is read from the texts that more than one item has.
theorem mem_noted_iff : t ∈ repeatedTexts ((items.map Json.compact).mergeSort fun a b => a ≤ b) ↔
    ∃ v, items.Duplicate v ∧ v.compact = t := by
  have hsorted : ((items.map Json.compact).mergeSort fun a b => a ≤ b).Pairwise (· ≤ ·) := by
    have := @List.pairwise_mergeSort String (fun a b => a ≤ b)
      (fun a b c hab hbc => by simpa using String.le_trans (by simpa using hab) (by simpa using hbc))
      (fun a b => by simpa using String.le_total a b) (items.map Json.compact)
    simpa using this
  rw [mem_repeatedTexts_iff hsorted, List.duplicate_iff_two_le_count,
    (List.mergeSort_perm _ _).count_eq, ← List.duplicate_iff_two_le_count,
    duplicate_map_iff fun _ _ => Json.compact_inj]

theorem mem_duplicates (h : u ∈ duplicates items) : ∃ v, items.Duplicate v ∧ Json.parse? v.compact = some u := by
  rw [duplicates_eq] at h
  obtain ⟨t, ht, hu⟩ := List.mem_filterMap.mp (mem_of_mem_once h)
  obtain ⟨v, hv, rfl⟩ := mem_noted_iff.mp ht
  exact ⟨v, hv, hu⟩

theorem exists_mem_duplicates (h : items.Duplicate v) (hu : Json.parse? v.compact = some u) (hs : u.same u = true) :
    ∃ w ∈ duplicates items, w.same u = true := by
  rw [duplicates_eq]
  exact exists_mem_once (List.mem_filterMap.mpr ⟨v.compact, mem_noted_iff.mpr ⟨v, h, rfl⟩, hu⟩) hs

theorem pairwise_duplicates : (duplicates items).Pairwise fun u v => u.same v = false := by
  rw [duplicates_eq]
  exact pairwise_once

-- A value that stands at two places of a list.
def Repeats (items : List Json) (v : Json) : Prop := ∃ i j : Nat, i ≠ j ∧ items[i]? = some v ∧ items[j]? = some v

theorem repeats_iff_duplicate : Repeats items v ↔ items.Duplicate v := by
  rw [List.duplicate_iff_exists_distinct_get]
  constructor
  case mp =>
    rintro ⟨i, j, hne, hi, hj⟩
    wlog hlt : i < j generalizing i j
    case inr => exact this j i hne.symm hj hi (by omega)
    obtain ⟨hli, rfl⟩ := List.getElem?_eq_some_iff.mp hi
    obtain ⟨hlj, hj⟩ := List.getElem?_eq_some_iff.mp hj
    exact ⟨⟨i, hli⟩, ⟨j, hlj⟩, hlt, rfl, hj.symm⟩
  case mpr =>
    rintro ⟨i, j, hlt, rfl, hj⟩
    exact ⟨i, j, by omega, List.getElem?_eq_getElem i.2, (List.getElem?_eq_getElem j.2).trans (congrArg some hj.symm)⟩

theorem check_uniqueItems : uniqueItems.check (.arr items) .require =
    if duplicates items = [] then none
    else some (Violations.single "uniqueItems" (.obj [("duplicateItems", .arr (duplicates items))])) := by
  cases items
  case nil => simp [check, judge, ifPresent, Json.isEmpty, duplicates]
  case cons v items =>
    have hmode : (Mode.require == Mode.forbid) = false := rfl
    by_cases h : duplicates (v :: items) = [] <;>
      simp [check, judge, ifPresent, Json.isEmpty, Json.items?, outcome, hmode, h]

-- Three copies of a number, two of a float, and two objects with the same members in another order.
def twoAndHalf : Number := .float 2.5 (by decide)

def mixedItems : List Json :=
  let one : Json := .num (.int 1 (by decide))
  [one, .obj [("a", .arr [.str "b"]), ("c", .null)], one, .num twoAndHalf, one, .num twoAndHalf,
    .obj [("c", .null), ("a", .arr [.str "b"])]]

theorem assemble_twoAndHalf : Json.Reader.assemble false [2] (some [5]) none = some (.num twoAndHalf) := by
  have hscale : Number.scale (Float.ofNat 25) (-1) = some 2.5 := by
    rw [Number.scale]
    decide
  have hfinite : (2.5 : Float).isFinite = true := by decide
  simp [Json.Reader.assemble, Number.Significand.ofDigits, Number.Significand.whole, Number.Significand.fraction, hscale,
    Json.ofFloat, hfinite, twoAndHalf]

theorem parse?_twoAndHalf : Json.parse? twoAndHalf.text = some (.num twoAndHalf) := by
  have htext : twoAndHalf.text = "2.5" := by decide +kernel
  rw [htext]
  simp [Json.parse?, Json.parseWithin?, Json.Reader.value, Json.Reader.skipBlanks, Json.Reader.scalar,
    Json.Reader.unsigned, Json.Reader.digits, Json.Reader.digit?, Json.Reader.fraction, Json.Reader.exponent,
    assemble_twoAndHalf]

theorem duplicates_of_nodup (h : items.Nodup) : duplicates items = [] := by
  refine List.eq_nil_iff_forall_not_mem.mpr fun u hu => ?_
  obtain ⟨v, hv, _⟩ := mem_duplicates hu
  exact List.nodup_iff_forall_not_duplicate.mp h v hv

end Rule

end FormModel
