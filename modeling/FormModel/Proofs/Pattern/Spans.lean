import FormModel.Pattern.Backtracking
import Mathlib.Data.Nat.Init

/-!
What a plain pattern means, said without an algorithm: between which positions of a text it matches.  The positions that
are reached from others are the ends of these matches, although counts are cut down on the way, since a match that is
counted more often than there are positions stays in its place at some time.
-/

namespace FormModel

namespace Pattern

variable {text : Array Char} {p : Pattern} {s : String} {positions seen latest : List Nat} {step : List Nat → List Nat}
  {R : Nat → Nat → Prop} {i j k m n last : Nat} {greedy : Bool} {extra : Option Nat}

-- A number of steps, one after the other.
def Steps (R : Nat → Nat → Prop) : Nat → Nat → Nat → Prop
  | 0, i, j => j = i
  | n + 1, i, j => ∃ k, R i k ∧ Steps R n k j

-- Whether a plain pattern matches the text between two positions.
def Spans (text : Array Char) : Pattern → Nat → Nat → Prop
  | empty, i, j => j = i
  | chars s, i, j => j = i + 1 ∧ ∃ c, text[i]? = some c ∧ s.contains c = true
  | assertion a, i, j => j = i ∧ a.holds text i = true
  | seq a b, i, j => ∃ k, Spans text a i k ∧ Spans text b k j
  | alt a b, i, j => Spans text a i j ∨ Spans text b i j
  | rep p least extra _, i, j => ∃ n, least ≤ n ∧ (∀ more ∈ extra, n ≤ least + more) ∧ Steps (Spans text p) n i j
  | group _ p, i, j => Spans text p i j
  | _, _, _ => False

section Spans

variable {text : Array Char} {s : CharSet} {a : Assertion} {p q : Pattern} {least i j : Nat} {extra : Option Nat}
  {greedy : Bool}

theorem spans_chars :
    Spans text (chars s) i j ↔ j = i + 1 ∧ ∃ c, text[i]? = some c ∧ s.contains c = true := .rfl

theorem spans_assertion : Spans text (assertion a) i j ↔ j = i ∧ a.holds text i = true := .rfl

theorem spans_seq : Spans text (seq p q) i j ↔ ∃ k, Spans text p i k ∧ Spans text q k j := .rfl

theorem spans_rep : Spans text (rep p least extra greedy) i j ↔
    ∃ n, least ≤ n ∧ (∀ more ∈ extra, n ≤ least + more) ∧ Steps (Spans text p) n i j := .rfl

end Spans

-- Whether a plain pattern matches somewhere in a text.
def Occurs (p : Pattern) (text : Array Char) : Prop := ∃ i j, i ≤ text.size ∧ Spans text p i j

-- Whether no step leads back, nor beyond the last position.
def Forward (last : Nat) (R : Nat → Nat → Prop) : Prop := ∀ i j, R i j → i ≤ last → i ≤ j ∧ j ≤ last

-- Whether a function goes one step on, from each of some positions.
def Takes (last : Nat) (R : Nat → Nat → Prop) (step : List Nat → List Nat) : Prop :=
  ∀ positions j, (∀ i ∈ positions, i ≤ last) → (j ∈ step positions ↔ ∃ i ∈ positions, R i j)

section Steps

theorem steps_one : Steps R 1 i j ↔ R i j := by simp [Steps]

theorem steps_add : Steps R (m + n) i j ↔ ∃ k, Steps R m i k ∧ Steps R n k j := by
  induction m generalizing i
  case zero => simp [Steps]
  case succ m hi =>
    simp only [Nat.add_right_comm m 1 n, Steps, hi]
    constructor
    case mp =>
      rintro ⟨k, hr, l, hm, hn⟩
      exact ⟨l, ⟨k, hr, hm⟩, hn⟩
    case mpr =>
      rintro ⟨l, ⟨k, hr, hm⟩, hn⟩
      exact ⟨k, hr, l, hm, hn⟩

theorem Forward.steps (hf : Forward last R) : Forward last (Steps R n) := by
  induction n
  case zero =>
    rintro i j rfl hi
    exact ⟨Nat.le_refl _, hi⟩
  case succ n hn =>
    rintro i j ⟨k, hr, h⟩ hi
    have ⟨hik, hk⟩ := hf i k hr hi
    have ⟨hkj, hj⟩ := hn k j h hk
    exact ⟨Nat.le_trans hik hkj, hj⟩

-- Of more steps than places are gone ahead, one stays in its place.  It may be left out, and it may be taken twice.
theorem Forward.idle (hf : Forward last R) (h : Steps R (n + 1) i j) (hi : i ≤ last) (hj : j < i + (n + 1)) :
    Steps R n i j ∧ Steps R (n + 2) i j := by
  induction n generalizing i
  case zero =>
    have hr := steps_one.mp h
    obtain rfl : j = i := by
      have := (hf i j hr hi).1
      omega
    exact ⟨rfl, j, hr, h⟩
  case succ n hn =>
    have ⟨k, hr, h'⟩ := h
    have ⟨hik, hk⟩ := hf i k hr hi
    by_cases he : k = i
    case pos =>
      subst he
      exact ⟨h', k, hr, h⟩
    case neg =>
      have ⟨hless, hmore⟩ := hn h' hk (by omega)
      exact ⟨⟨k, hr, hless⟩, k, hr, hmore⟩

-- More steps than there are positions lead no further.
theorem Forward.steps_min (hf : Forward last R) (hi : i ≤ last) : Steps R (min n (last + 1)) i j ↔ Steps R n i j := by
  rcases Nat.le_total n (last + 1) with hn | hn
  case inl => rw [Nat.min_eq_left hn]
  case inr =>
    rw [Nat.min_eq_right hn]
    induction n, hn using Nat.le_induction
    case base => exact Iff.rfl
    case succ n hn hs =>
      obtain ⟨n, rfl⟩ := Nat.exists_eq_add_one_of_ne_zero (Nat.ne_zero_of_lt hn)
      rw [hs]
      constructor
      case mp =>
        intro h
        have := (hf.steps i j h hi).2
        exact (hf.idle h hi (by omega)).2
      case mpr =>
        intro h
        have := (hf.steps i j h hi).2
        exact (hf.idle h hi (by omega)).1

-- So the number of steps may be cut down where it is bounded, and bounded where it is not.
theorem Forward.exists_steps_le (hf : Forward last R) (hi : i ≤ last) :
    (∃ m ≤ (match extra with
      | none => last + 1
      | some n => min n (last + 1)), Steps R m i j) ↔ ∃ m, (∀ n ∈ extra, m ≤ n) ∧ Steps R m i j := by
  constructor
  case mp =>
    rintro ⟨m, hm, h⟩
    refine ⟨m, ?_, h⟩
    rintro n rfl
    exact Nat.le_trans hm (Nat.min_le_left ..)
  case mpr =>
    rintro ⟨m, hm, h⟩
    refine ⟨min m (last + 1), ?_, (hf.steps_min hi).mpr h⟩
    cases extra
    case none => exact Nat.min_le_right ..
    case some n => exact Nat.le_min.mpr ⟨Nat.le_trans (Nat.min_le_left ..) (hm n rfl), Nat.min_le_right ..⟩

end Steps

section Lists

theorem Takes.le_of_mem (ht : Takes last R step) (hf : Forward last R) (hp : ∀ i ∈ positions, i ≤ last) :
    ∀ j ∈ step positions, j ≤ last := by
  intro j hj
  obtain ⟨i, hi, hr⟩ := (ht positions j hp).mp hj
  exact (hf i j hr (hp i hi)).2

theorem Takes.iterate (ht : Takes last R step) (hf : Forward last R) : Takes last (Steps R n) (iterate step n) := by
  induction n
  case zero => simp [Takes, Pattern.iterate, Steps]
  case succ n hn =>
    intro positions j hp
    rw [Pattern.iterate, hn _ j (ht.le_of_mem hf hp)]
    constructor
    case mp =>
      rintro ⟨k, hk, hs⟩
      obtain ⟨i, hi, hr⟩ := (ht positions k hp).mp hk
      exact ⟨i, hi, k, hr, hs⟩
    case mpr =>
      rintro ⟨i, hi, k, hr, hs⟩
      exact ⟨k, (ht positions k hp).mpr ⟨i, hi, hr⟩, hs⟩

-- Whether every step from what has been seen before the last round leads to what has been seen.
def FollowedUp (R : Nat → Nat → Prop) (seen latest : List Nat) : Prop :=
  ∀ i ∈ seen, i ∉ latest → ∀ j, R i j → j ∈ seen

theorem mem_of_steps (hc : ∀ i ∈ seen, ∀ j, R i j → j ∈ seen) (hi : i ∈ seen) (h : Steps R n i j) : j ∈ seen := by
  induction n generalizing i
  case zero => exact h ▸ hi
  case succ n hn =>
    obtain ⟨k, hr, h⟩ := h
    exact hn (hc i hi k hr) h

theorem Takes.mem_closure (ht : Takes last R step) (hf : Forward last R) (hs : ∀ i ∈ seen, i ≤ last)
    (hl : latest ⊆ seen) (hu : FollowedUp R seen latest) :
    j ∈ closure step n seen latest ↔ ∃ i ∈ seen, ∃ m ≤ n, Steps R m i j := by
  induction n generalizing seen latest
  case zero => simp [closure, Steps]
  case succ n hn =>
    rw [closure]
    generalize hnext : (step latest).filter (fun i => !seen.contains i) = next
    have hmem : ∀ k, k ∈ next ↔ (∃ i ∈ latest, R i k) ∧ k ∉ seen := fun k => by
      rw [← hnext, List.mem_filter, ht latest k fun i hi => hs i (hl hi)]
      simp
    have hall : ∀ i ∈ seen, ∀ k, R i k → k ∈ next ++ seen := by
      intro i hi k hr
      rw [List.mem_append, hmem]
      by_cases hk : k ∈ seen
      case pos => exact .inr hk
      case neg =>
        have hlatest : i ∈ latest := Decidable.not_not.mp fun hn => hk (hu i hi hn k hr)
        exact .inl ⟨⟨i, hlatest, hr⟩, hk⟩
    split
    case isTrue hempty =>
      rw [List.isEmpty_iff.mp hempty, List.nil_append] at hall
      constructor
      case mp => exact fun hj => ⟨j, hj, 0, Nat.zero_le _, rfl⟩
      case mpr =>
        rintro ⟨i, hi, m, _, h⟩
        exact mem_of_steps hall hi h
    case isFalse =>
      have hbound : ∀ i ∈ next ++ seen, i ≤ last := by
        intro i hi
        rcases List.mem_append.mp hi with hi | hi
        case inl =>
          obtain ⟨⟨k, hk, hr⟩, _⟩ := (hmem i).mp hi
          exact (hf k i hr (hs k (hl hk))).2
        case inr => exact hs i hi
      have hfollowed : FollowedUp R (next ++ seen) next := fun i hi hnot =>
        hall i ((List.mem_append.mp hi).resolve_left hnot)
      rw [hn hbound (List.subset_append_left ..) hfollowed]
      constructor
      case mp =>
        rintro ⟨i, hi, m, hm, h⟩
        rcases List.mem_append.mp hi with hi | hi
        case inl =>
          obtain ⟨⟨k, hk, hr⟩, _⟩ := (hmem i).mp hi
          exact ⟨k, hl hk, m + 1, Nat.succ_le_succ hm, i, hr, h⟩
        case inr => exact ⟨i, hi, m, Nat.le_succ_of_le hm, h⟩
      case mpr =>
        rintro ⟨i, hi, m, hm, h⟩
        cases m
        case zero => exact ⟨i, List.mem_append_right _ hi, 0, Nat.zero_le _, h⟩
        case succ m =>
          obtain ⟨k, hr, h⟩ := h
          exact ⟨k, hall i hi k hr, m, Nat.le_of_succ_le_succ hm, h⟩

end Lists

section Reach

theorem mem_distinct {l : List Nat} : i ∈ distinct l ↔ i ∈ l := by
  have hfold : ∀ l seen : List Nat, i ∈ l.foldl (fun seen j => if seen.contains j then seen else j :: seen) seen ↔
      i ∈ seen ∨ i ∈ l := by
    intro l
    induction l
    case nil => simp
    case cons j l hi =>
      intro seen
      rw [List.foldl_cons, hi]
      grind
  rw [distinct, hfold]
  simp

theorem forward_spans : Forward text.size (Spans text p) := by
  induction p
  case empty =>
    rintro i j rfl hi
    exact ⟨Nat.le_refl _, hi⟩
  case chars s =>
    rintro i j ⟨rfl, c, hc, _⟩ _
    exact ⟨Nat.le_succ i, (Array.getElem?_eq_some_iff.mp hc).1⟩
  case assertion a =>
    rintro i j ⟨rfl, _⟩ hi
    exact ⟨Nat.le_refl _, hi⟩
  case seq a b ha hb =>
    rintro i j ⟨k, hik, hkj⟩ hi
    have ⟨hle, hk⟩ := ha i k hik hi
    have ⟨hle', hj⟩ := hb k j hkj hk
    exact ⟨Nat.le_trans hle hle', hj⟩
  case alt a b ha hb =>
    rintro i j (h | h) hi
    case inl => exact ha i j h hi
    case inr => exact hb i j h hi
  case rep p least extra greedy hp =>
    rintro i j ⟨n, _, _, h⟩ hi
    exact hp.steps i j h hi
  case group index p hp => exact hp
  all_goals exact nofun

theorem reach_rep : reach text (rep p least extra greedy) positions =
    let start := iterate (reach text p) (min least (text.size + 1)) positions
    closure (reach text p) (match extra with
      | none => text.size + 1
      | some n => min n (text.size + 1)) start start :=
  rfl

theorem takes_rep (ht : Takes text.size (Spans text p) (reach text p)) :
    Takes text.size (Spans text (rep p least extra greedy)) (reach text (rep p least extra greedy)) := by
  have hf : Forward text.size (Spans text p) := forward_spans
  intro positions j hp
  rw [reach_rep]
  generalize hstart : iterate (reach text p) (min least (text.size + 1)) positions = start
  have hmem : ∀ k, k ∈ start ↔ ∃ i ∈ positions, Steps (Spans text p) least i k := fun k => by
    rw [← hstart, ht.iterate hf positions k hp]
    exact exists_congr fun i => and_congr_right fun hi => hf.steps_min (hp i hi)
  have hbound : ∀ k ∈ start, k ≤ text.size := fun k hk => by
    obtain ⟨i, hi, h⟩ := (hmem k).mp hk
    exact (hf.steps i k h (hp i hi)).2
  rw [ht.mem_closure hf hbound (List.Subset.refl _) fun k hk hn => absurd hk hn]
  constructor
  case mp =>
    rintro ⟨k, hk, h⟩
    obtain ⟨m, hm, h⟩ := (hf.exists_steps_le (hbound k hk)).mp h
    obtain ⟨i, hi, hl⟩ := (hmem k).mp hk
    refine ⟨i, hi, least + m, Nat.le_add_right .., fun more he => ?_, steps_add.mpr ⟨k, hl, h⟩⟩
    exact Nat.add_le_add_left (hm more he) least
  case mpr =>
    rintro ⟨i, hi, n, hl, hm, h⟩
    obtain ⟨m, rfl⟩ := Nat.exists_eq_add_of_le hl
    obtain ⟨k, hleast, h⟩ := steps_add.mp h
    have hk : k ∈ start := (hmem k).mpr ⟨i, hi, hleast⟩
    exact ⟨k, hk, (hf.exists_steps_le (hbound k hk)).mpr ⟨m, fun more he => Nat.le_of_add_le_add_left (hm more he), h⟩⟩

theorem takes_reach : Takes text.size (Spans text p) (reach text p) := by
  induction p
  case empty => simp [Takes, reach, Spans]
  case chars s =>
    intro positions j _
    rw [reach, List.mem_filterMap]
    refine exists_congr fun i => and_congr_right fun _ => ?_
    rw [Spans]
    cases text[i]?
    case none => simp
    case some c => simp [and_comm, @eq_comm _ j]
  case assertion a =>
    intro positions j _
    simp [reach, Spans, List.mem_filter, and_left_comm]
  case seq a b ha hb =>
    intro positions j hp
    rw [reach, hb _ j (ha.le_of_mem forward_spans hp)]
    constructor
    case mp =>
      rintro ⟨k, hk, hkj⟩
      obtain ⟨i, hi, hik⟩ := (ha positions k hp).mp hk
      exact ⟨i, hi, k, hik, hkj⟩
    case mpr =>
      rintro ⟨i, hi, k, hik, hkj⟩
      exact ⟨k, (ha positions k hp).mpr ⟨i, hi, hik⟩, hkj⟩
  case alt a b ha hb =>
    intro positions j hp
    rw [reach, mem_distinct, List.mem_append, ha positions j hp, hb positions j hp]
    simp only [Spans, and_or_left, exists_or]
  case rep p least extra greedy hp => exact takes_rep hp
  case group index p hp => exact hp
  all_goals simp [Takes, reach, Spans]

theorem occursIn_iff : p.occursIn text = true ↔ p.Occurs text := by
  rw [occursIn, Bool.not_eq_true', List.isEmpty_eq_false_iff_exists_mem, Occurs]
  have ht : Takes text.size (Spans text p) (reach text p) := takes_reach
  have hr := fun j => ht (List.range (text.size + 1)) j fun i hi => Nat.le_of_lt_succ (List.mem_range.mp hi)
  simp only [hr, List.mem_range, Nat.lt_succ_iff]
  rw [exists_comm]

theorem isMatch_iff (h : p.isPlain = true) : p.isMatch s = true ↔ p.Occurs s.toList.toArray := by
  rw [isMatch, if_pos h, occursIn_iff]

end Reach

end Pattern

end FormModel
