import FormModel.Dict
import Mathlib.Data.List.Forall2

/-!
Dictionaries compared entry by entry, and dictionaries of which some keys are left.
-/

namespace FormModel

theorem exists_mem_of_forall₂ {α β : Type} {R : α → β → Prop} {xs : List α} {ys : List β} {y : β}
    (h : List.Forall₂ R xs ys) (hy : y ∈ ys) : ∃ x ∈ xs, R x y := by
  induction h
  case nil => contradiction
  case cons hr _ hi =>
    cases hy
    case head => exact ⟨_, List.mem_cons_self, hr⟩
    case tail hy =>
      have ⟨x, hx, hr⟩ := hi hy
      exact ⟨x, List.mem_cons_of_mem _ hx, hr⟩

-- Entries that are the same one by one make the same list.
theorem eq_of_forall₂ {α : Type} {R : α → α → Prop} {xs ys : List α} (h : List.Forall₂ R xs ys)
    (he : ∀ x y, x ∈ xs → R x y → y = x) : ys = xs := by
  induction h
  case nil => rfl
  case cons x y xs ys hxy _ hi =>
    rw [he x y List.mem_cons_self hxy, hi fun x y hm => he x y (List.mem_cons_of_mem _ hm)]

namespace Dict

variable {α β : Type} {d : Dict α} {d' : Dict β} {key : String} {v : α} {v' : β} {R : String → α → β → Prop}
  {f : String → α → Option β}

theorem has_eq_false : d.has key = false ↔ key ∉ d.keys := by
  rw [← get?_eq_none, has, Option.isSome_eq_false_iff, Option.isNone_iff_eq_none]

theorem has_iff_mem_keys : d.has key ↔ key ∈ d.keys := by
  rw [← Bool.not_eq_false, has_eq_false, not_not]

theorem insert_of_not_has (h : d.has key = false) : d.insert key v = d ++ [(key, v)] := by
  induction d
  case nil => rfl
  case cons e rest hi =>
    obtain ⟨k, w⟩ := e
    rw [has_eq_false, keys, List.map_cons, List.mem_cons, not_or] at h
    rw [insert, if_neg (Ne.symm h.1), hi (has_eq_false.mpr h.2), List.cons_append]

theorem erase_of_get?_eq_none (h : d.get? key = none) : d.erase key = d := by
  rw [get?_eq_none] at h
  refine List.filter_eq_self.mpr fun e he => ?_
  simp only [bne_iff_ne, ne_eq]
  rintro rfl
  exact h (List.mem_map_of_mem he)

theorem insert_insert {w : α} : (d.insert key v).insert key w = d.insert key w := by
  induction d
  case nil => simp [insert]
  case cons e rest hi =>
    obtain ⟨k, u⟩ := e
    by_cases hk : k = key <;> simp [insert, hk, hi]

theorem not_has_of_nodup_append {e : String × α} {more : Dict α} (h : (d ++ e :: more).keys.Nodup) : d.has e.1 = false := by
  simp only [keys, List.map_append, List.map_cons, List.nodup_append, List.mem_cons] at h
  exact has_eq_false.mpr fun hm => h.2.2 _ hm _ (.inl rfl) rfl

-- Entries under different keys are kept as they come.
theorem extend_eq_append {more : Dict α} (h : (d ++ more).keys.Nodup) : d.extend more = d ++ more := by
  induction more generalizing d
  case nil => exact (List.append_nil d).symm
  case cons e more hi =>
    have hk := not_has_of_nodup_append h
    rw [List.append_cons d e more] at h ⊢
    rw [← hi h, extend, List.foldl_cons, insert_of_not_has hk]
    rfl

theorem ofList_eq_self (h : d.keys.Nodup) : ofList d = d := extend_eq_append h

theorem nodup_keys_extend {more : Dict α} (hd : d.keys.Nodup) : (d.extend more).keys.Nodup := by
  induction more generalizing d
  case nil => exact hd
  case cons e more hi => exact hi (nodup_keys_insert e.2 hd)

-- A dictionary made entry by entry out of another one has its entries in the same order.
theorem foldl_insert_eq (hd : d.keys.Nodup) (hn : ∀ key ∈ d.keys, d'.has key = false) :
    d.foldl (fun made e => match f e.1 e.2 with
      | some value => made.insert e.1 value
      | none => made) d' = d' ++ d.filterMap fun e => (f e.1 e.2).map (e.1, ·) := by
  induction d generalizing d'
  case nil => simp
  case cons e rest hi =>
    have ⟨hk, hd⟩ := List.nodup_cons.mp hd
    have ⟨he, hn⟩ := List.forall_mem_cons.mp hn
    rw [List.foldl_cons, List.filterMap_cons]
    cases hf : f e.1 e.2
    case none => exact hi hd hn
    case some value =>
      dsimp only [Option.map_some]
      rw [insert_of_not_has he, hi hd fun key hm => ?_, List.append_assoc, List.singleton_append]
      rw [has_eq_false, keys, List.map_append, List.mem_append, not_or]
      refine ⟨has_eq_false.mp (hn key hm), fun h => hk ?_⟩
      obtain rfl : key = e.1 := List.mem_singleton.mp h
      exact hm

theorem get?_filter {f : String → Bool} (h : f key = true) : get? (d.filter fun e => f e.1) key = get? d key := by
  induction d
  case nil => rfl
  case cons e rest hi =>
    obtain ⟨k, v⟩ := e
    by_cases hk : k = key
    case pos => simp [get?, hk, h]
    case neg => cases hf : f k <;> simp [get?, hf, hk, hi]

theorem keys_filter {f : String → Bool} : keys (d.filter fun e => f e.1) = d.keys.filter f := by
  rw [keys, keys, List.filter_map]
  rfl

theorem keys_filterMap_sublist : (keys (d.filterMap fun e => (f e.1 e.2).map (e.1, ·))).Sublist d.keys := by
  induction d
  case nil => exact .slnil
  case cons e d hi =>
    rw [List.filterMap_cons]
    cases f e.1 e.2
    case none => exact .cons _ hi
    case some => exact .cons_cons _ hi

theorem get?_filterMap (hd : d.keys.Nodup) :
    get? (d.filterMap fun e => (f e.1 e.2).map (e.1, ·)) key = (d.get? key).bind (f key) := by
  induction d
  case nil => rfl
  case cons e d hi =>
    obtain ⟨k, v⟩ := e
    have ⟨hk, hd⟩ := List.nodup_cons.mp hd
    rw [List.filterMap_cons]
    by_cases he : k = key
    case neg => cases f k v <;> simp [get?, he, hi hd]
    case pos =>
      subst he
      have hnone : get? d k = none := get?_eq_none.mpr hk
      cases hf : f k v <;> simp [get?, hf, hi hd, hnone]

theorem get?_mapValues {f : α → β} : (d.mapValues f).get? key = (d.get? key).map f := by
  induction d
  case nil => rfl
  case cons e rest hi =>
    simp only [mapValues, List.map_cons, get?] at hi ⊢
    split
    case isTrue => rfl
    case isFalse => exact hi

theorem keys_of_forall₂ (h : List.Forall₂ (fun e e' => e'.1 = e.1 ∧ R e.1 e.2 e'.2) d d') : d'.keys = d.keys := by
  induction h
  case nil => rfl
  case cons he _ hi => exact congrArg₂ List.cons he.1 hi

theorem get?_of_forall₂ (h : List.Forall₂ (fun e e' => e'.1 = e.1 ∧ R e.1 e.2 e'.2) d d') (hv : d.get? key = some v) :
    ∃ v', d'.get? key = some v' ∧ R key v v' := by
  induction h
  case nil => contradiction
  case cons e e' _ _ he _ hi =>
    obtain ⟨k, w⟩ := e
    obtain ⟨k', w'⟩ := e'
    obtain ⟨rfl, hr⟩ := he
    by_cases hk : k' = key
    case pos =>
      subst hk
      rw [get?, if_pos rfl] at hv
      exact ⟨w', by simp [get?], Option.some.inj hv ▸ hr⟩
    case neg =>
      rw [get?, if_neg hk] at hv
      rw [get?, if_neg hk]
      exact hi hv

theorem exists_get?_of_forall₂ (h : List.Forall₂ (fun e e' => e'.1 = e.1 ∧ R e.1 e.2 e'.2) d d')
    (hv : d'.get? key = some v') : ∃ v, d.get? key = some v ∧ R key v v' := by
  cases hg : d.get? key
  case none =>
    rw [get?_eq_none, ← keys_of_forall₂ h, ← get?_eq_none, hv] at hg
    contradiction
  case some v =>
    have ⟨w, hw, hr⟩ := get?_of_forall₂ h hg
    rw [hv, Option.some.injEq] at hw
    exact ⟨v, rfl, hw ▸ hr⟩

theorem rel_get?_of_forall₂ (key : String) (h : List.Forall₂ (fun e e' => e'.1 = e.1 ∧ R e.1 e.2 e'.2) d d') :
    Option.Rel (R key) (d.get? key) (d'.get? key) := by
  cases hv : d.get? key
  case none =>
    rw [get?_eq_none, ← keys_of_forall₂ h, ← get?_eq_none] at hv
    exact hv ▸ .none
  case some v =>
    have ⟨v', hv', hr⟩ := get?_of_forall₂ h hv
    exact hv' ▸ .some hr

end Dict

end FormModel
