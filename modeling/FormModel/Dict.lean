/-!
Dictionaries in order of insertion.  Writing to a key that is present keeps its place, a new key goes
to the end, and removing a key keeps the order of the others.
-/

namespace FormModel

/-- Keys with their values, oldest first. -/
abbrev Dict (α : Type) := List (String × α)

namespace Dict

variable {α β : Type}

/-- The value of `key`. -/
def get? : Dict α → String → Option α
  | [], _ => none
  | (k, v) :: rest, key => if k = key then some v else get? rest key

/-- Whether `key` is present. -/
def has (d : Dict α) (key : String) : Bool := (d.get? key).isSome

/-- Writes `value` under `key`, in its place if it has one. -/
def insert : Dict α → String → α → Dict α
  | [], key, value => [(key, value)]
  | (k, v) :: rest, key, value => if k = key then (k, value) :: rest else (k, v) :: insert rest key value

/-- The dictionary without `key`. -/
def erase (d : Dict α) (key : String) : Dict α := d.filter fun e => e.1 != key

/-- Writes `value` only if `key` is absent. -/
def insertNew (d : Dict α) (key : String) (value : α) : Dict α :=
  if d.has key then d else d.insert key value

/-- Writes all entries of the second dictionary, in their order. -/
def extend (d : Dict α) (more : Dict α) : Dict α := more.foldl (fun d e => d.insert e.1 e.2) d

/-- The dictionary of a list in which the last value of a key wins. -/
def ofList (entries : List (String × α)) : Dict α := extend [] entries

/-- Keys, oldest first. -/
def keys (d : Dict α) : List String := d.map (·.1)

/-- The values under the same keys, each replaced. -/
def mapValues (f : α → β) (d : Dict α) : Dict β := d.map fun (k, v) => (k, f v)

@[simp] theorem get?_nil (key : String) : get? ([] : Dict α) key = none := rfl

theorem get?_insert (d : Dict α) (key key' : String) (value : α) :
    (d.insert key value).get? key' = if key = key' then some value else d.get? key' := by
  induction d with
  | nil => simp [insert, get?]
  | cons e rest ih =>
    obtain ⟨k, v⟩ := e
    by_cases h : k = key
    case pos =>
      subst h
      by_cases h' : k = key' <;> simp [insert, get?, h']
    case neg =>
      by_cases h' : k = key'
      case pos =>
        subst h'
        simp [insert, get?, h, Ne.symm h]
      case neg => simp [insert, get?, h, h', ih]

theorem get?_erase (d : Dict α) (key key' : String) :
    (d.erase key).get? key' = if key = key' then none else d.get? key' := by
  induction d with
  | nil => simp [erase]
  | cons e rest ih =>
    obtain ⟨k, v⟩ := e
    simp only [erase, List.filter_cons, bne_iff_ne, ne_eq] at ih ⊢
    by_cases h : k = key
    case pos =>
      subst h
      by_cases h' : k = key' <;> simp_all [get?]
    case neg =>
      by_cases h' : k = key'
      case pos =>
        subst h'
        simp [get?, h, Ne.symm h]
      case neg => simp [get?, h, h', ih]

theorem mem_of_get? {d : Dict α} {key : String} {value : α} (h : d.get? key = some value) :
    (key, value) ∈ d := by
  induction d with
  | nil => simp at h
  | cons e rest ih =>
    obtain ⟨k, v⟩ := e
    by_cases hk : k = key <;> simp_all [get?]

theorem get?_of_mem {d : Dict α} {key : String} {value : α} (hd : d.keys.Nodup)
    (h : (key, value) ∈ d) : d.get? key = some value := by
  induction d with
  | nil => simp at h
  | cons e rest ih =>
    obtain ⟨k, v⟩ := e
    simp only [keys, List.map_cons, List.nodup_cons] at hd
    cases List.mem_cons.mp h with
    | inl h => simp_all [get?]
    | inr h =>
      have hk : k ≠ key := fun hk => hd.1 (hk ▸ List.mem_map_of_mem h)
      simp [get?, hk, ih hd.2 h]

theorem mem_keys_of_has {d : Dict α} {key : String} (h : d.has key) : key ∈ d.keys := by
  have ⟨_, hv⟩ := Option.isSome_iff_exists.mp h
  exact List.mem_map_of_mem (mem_of_get? hv)

theorem get?_eq_none {d : Dict α} {key : String} : d.get? key = none ↔ key ∉ d.keys := by
  induction d with
  | nil => simp [keys]
  | cons e rest ih =>
    obtain ⟨k, v⟩ := e
    by_cases hk : k = key
    case pos => simp [get?, keys, hk]
    case neg => simpa [get?, keys, hk, Ne.symm hk] using ih

theorem insert_get? {d : Dict α} {key : String} {value : α} (h : d.get? key = some value) :
    d.insert key value = d := by
  induction d with
  | nil => simp at h
  | cons e rest ih =>
    obtain ⟨k, v⟩ := e
    by_cases hk : k = key <;> simp_all [get?, insert]

theorem keys_insert_of_has {d : Dict α} {key : String} (value : α) (h : d.has key) :
    (d.insert key value).keys = d.keys := by
  induction d with
  | nil => simp [has] at h
  | cons e rest ih =>
    obtain ⟨k, v⟩ := e
    by_cases hk : k = key
    case pos => simp [insert, keys, hk]
    case neg =>
      have h' : has rest key := by simpa [has, get?, hk] using h
      simpa [insert, keys, hk] using ih h'

theorem keys_insert_of_not_has {d : Dict α} {key : String} (value : α) (h : d.has key = false) :
    (d.insert key value).keys = d.keys ++ [key] := by
  induction d with
  | nil => simp [insert, keys]
  | cons e rest ih =>
    obtain ⟨k, v⟩ := e
    by_cases hk : k = key
    case pos => simp [has, get?, hk] at h
    case neg =>
      have h' : has rest key = false := by simpa [has, get?, hk] using h
      simpa [insert, keys, hk] using ih h'

theorem mem_insert {d : Dict α} {key : String} {value : α} {e : String × α} (h : e ∈ d.insert key value) :
    e = (key, value) ∨ e ∈ d := by
  induction d with
  | nil => simpa [insert] using h
  | cons e' rest ih =>
    obtain ⟨k, v⟩ := e'
    by_cases hk : k = key
    case pos =>
      rw [insert, if_pos hk, List.mem_cons] at h
      exact h.imp (hk ▸ ·) (List.mem_cons_of_mem _)
    case neg =>
      rw [insert, if_neg hk, List.mem_cons] at h
      rcases h with h | h
      · exact .inr (h ▸ List.mem_cons_self)
      · exact (ih h).imp_right (List.mem_cons_of_mem _)

theorem mem_extend {d more : Dict α} {e : String × α} (h : e ∈ d.extend more) : e ∈ d ∨ e ∈ more := by
  induction more generalizing d with
  | nil => exact .inl h
  | cons e' rest ih =>
    rcases ih h with h | h
    · rcases mem_insert h with h | h
      · exact .inr (h ▸ List.mem_cons_self)
      · exact .inl h
    · exact .inr (List.mem_cons_of_mem _ h)

theorem get?_extend_of_not_mem {d more : Dict α} {key : String} (h : ∀ e ∈ more, e.1 ≠ key) :
    (d.extend more).get? key = d.get? key := by
  induction more generalizing d with
  | nil => rfl
  | cons e rest ih =>
    have ⟨he, h⟩ := List.forall_mem_cons.mp h
    have hi : (extend (d.insert e.1 e.2) rest).get? key = _ := ih h
    rw [get?_insert, if_neg he] at hi
    exact hi

theorem nodup_keys_insert {d : Dict α} {key : String} (value : α) (h : d.keys.Nodup) :
    (d.insert key value).keys.Nodup := by
  by_cases hk : d.has key
  case pos => rwa [keys_insert_of_has value hk]
  case neg =>
    rw [Bool.not_eq_true] at hk
    rw [keys_insert_of_not_has value hk, List.nodup_append]
    refine ⟨h, by simp, fun k hm k' hm' he => ?_⟩
    obtain ⟨⟨_, v⟩, he', rfl⟩ := List.mem_map.mp hm
    rw [List.mem_singleton.mp hm'] at he
    rw [has, ← he, get?_of_mem h he'] at hk
    contradiction

end Dict

end FormModel
