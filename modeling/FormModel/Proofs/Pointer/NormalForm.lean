import FormModel.Proofs.Pointer.Fold
import FormModel.Proofs.Pointer.Generic

/-!
Folding comes to an end.  The loops that fold a pointer are laid out as relations, with nothing in them that says how
often they may be gone through.  Every fold leaves fewer tokens, so the loops end, and the number of times that folding
allows for is never what ends them.  What comes out is generic and not below any place that is folded.
-/

namespace FormModel

namespace Pointer

variable {arrays : ArrayMap} {refs : RecursionMap} {source target p p₁ p' name : String} {tokens : Tokens} {cs : List Char}
  {i m n fuel : Nat}

-- Whether a pointer has been written from tokens.
def Written (pointer : String) : Prop := ∃ tokens, pointer = compile tokens

theorem Written.child (h : Written p) : Written (child p name) := by
  obtain ⟨tokens, rfl⟩ := h
  exact ⟨_, compile_concat.symm⟩

theorem Written.item (h : Written p) : Written (p ++ "/" ++ toString i) := by
  obtain ⟨tokens, rfl⟩ := h
  exact ⟨_, compile_concat_index.symm⟩

theorem Written.dash (h : Written p) : Written (p ++ "/-") := by
  rw [append_eq_child "-" (by decide)]
  exact h.child

-- Whether a pointer is the generic form of itself.
def Generic (arrays : ArrayMap) (pointer : String) : Prop := toGeneric? arrays pointer = some pointer

-- Whether a pointer leads to and below no place that is noted with a strict ancestor of it.
def Folded (refs : RecursionMap) (pointer : String) : Prop :=
  ∀ e ∈ refs, isAncestor e.2 e.1 true = true → isAncestor e.1 pointer false = false

-- The number of tokens of a pointer that has been written from tokens.
def depth (pointer : String) : Nat := pointer.toList.count '/'

-- A pointer with another front.
def withFront (source target pointer : String) : String :=
  target ++ String.ofList (pointer.toList.drop source.length)

section Loops

-- The folds along one entry until the place is no front any more, and their number.
inductive FoldsAt (arrays : ArrayMap) (source target : String) : Nat → String → String → Prop
  | stop {p : String} : isAncestor source p false = false → FoldsAt arrays source target 0 p p
  | fold {n : Nat} {p p₁ p' : String} : isAncestor source p false = true →
    toGeneric? arrays (withFront source target p) = some p₁ → FoldsAt arrays source target n p₁ p' →
    FoldsAt arrays source target (n + 1) p p'

-- The folds along all entries that lead to a strict ancestor, one entry after the other.
inductive FoldsOnce (arrays : ArrayMap) : RecursionMap → Nat → String → String → Prop
  | nil {p : String} : FoldsOnce arrays [] 0 p p
  | skip {source target : String} {refs : RecursionMap} {n : Nat} {p p' : String} :
    isAncestor target source true = false → FoldsOnce arrays refs n p p' →
    FoldsOnce arrays ((source, target) :: refs) n p p'
  | entry {source target : String} {refs : RecursionMap} {m n : Nat} {p p₁ p' : String} :
    isAncestor target source true = true → FoldsAt arrays source target m p p₁ → FoldsOnce arrays refs n p₁ p' →
    FoldsOnce arrays ((source, target) :: refs) (m + n) p p'

-- All entries gone through again and again, until there is nothing to fold along any of them.
inductive Folds (refs : RecursionMap) (arrays : ArrayMap) : String → String → Prop
  | last {p p' : String} : FoldsOnce arrays refs 0 p p' → Folds refs arrays p p'
  | again {n : Nat} {p p₁ p' : String} : FoldsOnce arrays refs (n + 1) p p₁ → Folds refs arrays p₁ p' →
    Folds refs arrays p p'

end Loops

section Steps

theorem withFront_compile {front rest : Tokens} :
    withFront (compile front) target (compile (front ++ rest)) = target ++ compile rest := by
  rw [withFront, compile_append, String.toList_append, ← String.length_toList, List.drop_left, String.ofList_toList]

theorem depth_compile : depth (compile tokens) = tokens.length := by
  rw [depth, toList_compile]
  induction tokens
  case nil => rfl
  case cons token tokens hi =>
    have hb : bodyOf (token :: tokens) = '/' :: (escapeChars token.toList ++ bodyOf tokens) := rfl
    rw [hb, List.count_cons_self, List.count_append, List.count_eq_zero_of_not_mem slash_not_mem_escapeChars, hi,
      Nat.zero_add, List.length_cons]

theorem depth_le_length : depth p ≤ p.length := String.length_toList ▸ List.count_le_length

-- A written pointer is read as no more tokens than it has been written from.
theorem exists_parse?_compile (tokens : Tokens) :
    ∃ tokens', parse? (compile tokens) = some tokens' ∧ tokens'.length ≤ tokens.length := by
  by_cases h : tokens = [""]
  case pos => exact ⟨[], by rw [h]; decide, Nat.zero_le _⟩
  case neg => exact ⟨tokens, parse?_compile h, le_rfl⟩

theorem toGeneric?_eq (h : parse? p = some tokens) :
    toGeneric? arrays p = some (compile (genericTokens arrays [] tokens)) := by
  rw [toGeneric?, h, Option.map_some]

theorem generic_compile (h : tokens ≠ [""]) : Generic arrays (compile (genericTokens arrays [] tokens)) := by
  rw [Generic, toGeneric?_eq (parse?_compile (genericTokens_ne h)), genericTokens_genericTokens]

theorem Generic.written (h : Generic arrays p) : Written p := by
  have ⟨tokens, _, hp⟩ := Option.map_eq_some_iff.mp h
  exact ⟨_, hp.symm⟩

-- Every fold can be made and leaves fewer tokens.
theorem exists_fold (arrays : ArrayMap) (hp : Written p) (hs : isAncestor source p false = true)
    (ht : isAncestor target source true = true) :
    ∃ p', toGeneric? arrays (withFront source target p) = some p' ∧ Generic arrays p' ∧ depth p' < depth p := by
  obtain ⟨tokens, rfl⟩ := hp
  obtain ⟨front, rest, rfl, rfl⟩ := exists_append_of_isAncestor hs
  obtain ⟨front', rest', rfl, hn, rfl⟩ := exists_append_of_isAncestor_strict ht
  rw [withFront_compile, ← compile_append]
  obtain ⟨tokens, hp, hl⟩ := exists_parse?_compile (front' ++ rest)
  refine ⟨_, toGeneric?_eq hp, generic_compile (ne_of_parse? hp), ?_⟩
  have := List.length_pos_iff.mpr hn
  simp only [depth_compile, length_genericTokens, List.length_append] at hl ⊢
  omega

theorem generic_and_depth_lt (hp : Written p) (hs : isAncestor source p false = true)
    (ht : isAncestor target source true = true) (h : toGeneric? arrays (withFront source target p) = some p₁) :
    Generic arrays p₁ ∧ depth p₁ < depth p := by
  obtain ⟨p', hg, hk⟩ := exists_fold arrays hp hs ht
  exact Option.some.inj (hg.symm.trans h) ▸ hk

-- A pointer that is made generic and folded on the way, and loses a token or more with every fold.
structure FoldedBy (arrays : ArrayMap) (n : Nat) (p p' : String) : Prop where
  eq_or_generic : p' = p ∨ Generic arrays p'
  depth_add_le : depth p' + n ≤ depth p

theorem FoldedBy.written (h : FoldedBy arrays n p p') (hp : Written p) : Written p' :=
  h.eq_or_generic.elim (· ▸ hp) Generic.written

theorem FoldedBy.refl : FoldedBy arrays 0 p p := ⟨.inl rfl, le_rfl⟩

theorem FoldedBy.trans (h : FoldedBy arrays m p p₁) (h' : FoldedBy arrays n p₁ p') : FoldedBy arrays (m + n) p p' where
  eq_or_generic := h'.eq_or_generic.elim (· ▸ h.eq_or_generic) .inr
  depth_add_le := by
    have := h.depth_add_le
    have := h'.depth_add_le
    omega

theorem FoldsAt.foldedBy (h : FoldsAt arrays source target n p p') (hp : Written p)
    (ht : isAncestor target source true = true) : FoldedBy arrays n p p' := by
  induction h
  case stop => exact .refl
  case fold n p p₁ p' hs hg _ hi =>
    have ⟨hgeneric, hlt⟩ := generic_and_depth_lt hp hs ht hg
    have hone : FoldedBy arrays 1 p p₁ := ⟨.inr hgeneric, hlt⟩
    exact Nat.add_comm 1 n ▸ hone.trans (hi hgeneric.written)

theorem FoldsOnce.foldedBy (h : FoldsOnce arrays refs n p p') (hp : Written p) : FoldedBy arrays n p p' := by
  induction h
  case nil => exact .refl
  case skip hi => exact hi hp
  case entry ht hat _ hi =>
    have hfirst := hat.foldedBy hp ht
    exact hfirst.trans (hi (hfirst.written hp))

theorem Folds.foldedBy (h : Folds refs arrays p p') (hp : Written p) : ∃ n, FoldedBy arrays n p p' := by
  induction h
  case last h => exact ⟨0, h.foldedBy hp⟩
  case again h _ hi =>
    have hfirst := h.foldedBy hp
    obtain ⟨n, hrest⟩ := hi (hfirst.written hp)
    exact ⟨_, hfirst.trans hrest⟩

end Steps

section Ends

theorem exists_foldsAt (arrays : ArrayMap) (hp : Written p) (ht : isAncestor target source true = true) :
    ∃ n p', FoldsAt arrays source target n p p' := by
  induction hd : depth p using Nat.strongRecOn generalizing p
  case ind d hi =>
    cases hs : isAncestor source p false
    case false => exact ⟨0, p, .stop hs⟩
    case true =>
      obtain ⟨p₁, hg, hgeneric, hlt⟩ := exists_fold arrays hp hs ht
      obtain ⟨n, p', h⟩ := hi (depth p₁) (hd ▸ hlt) hgeneric.written rfl
      exact ⟨n + 1, p', .fold hs hg h⟩

theorem exists_foldsOnce (refs : RecursionMap) (arrays : ArrayMap) (hp : Written p) :
    ∃ n p', FoldsOnce arrays refs n p p' := by
  induction refs generalizing p
  case nil => exact ⟨0, p, .nil⟩
  case cons e refs hi =>
    cases ht : isAncestor e.2 e.1 true
    case false =>
      obtain ⟨n, p', h⟩ := hi hp
      exact ⟨n, p', .skip ht h⟩
    case true =>
      obtain ⟨m, p₁, hat⟩ := exists_foldsAt arrays hp ht
      obtain ⟨n, p', h⟩ := hi ((hat.foldedBy hp ht).written hp)
      exact ⟨m + n, p', .entry ht hat h⟩

-- Whatever entries there are, going through them comes to an end.
theorem exists_folds (refs : RecursionMap) (arrays : ArrayMap) (hp : Written p) : ∃ p', Folds refs arrays p p' := by
  induction hd : depth p using Nat.strongRecOn generalizing p
  case ind d hi =>
    obtain ⟨n, p₁, h⟩ := exists_foldsOnce refs arrays hp
    cases n
    case zero => exact ⟨p₁, .last h⟩
    case succ n =>
      have hby := h.foldedBy hp
      have hlt : depth p₁ < d := by
        have := hby.depth_add_le
        omega
      obtain ⟨p', h'⟩ := hi _ hlt (hby.written hp) rfl
      exact ⟨p', .again h h'⟩

end Ends

section Bounds

theorem FoldsAt.foldSource (h : FoldsAt arrays source target n p p') (hn : n ≤ fuel) :
    foldSource arrays source target fuel p = some p' := by
  induction h generalizing fuel
  case stop hs => cases fuel <;> simp [Pointer.foldSource, hs]
  case fold hs hg _ hi =>
    cases fuel
    case zero => contradiction
    case succ fuel =>
      rw [Pointer.foldSource, if_pos hs]
      exact Option.bind_eq_some_iff.mpr ⟨_, hg, hi (Nat.le_of_succ_le_succ hn)⟩

theorem FoldsOnce.foldPass (h : FoldsOnce arrays refs n p p') (hp : Written p) : foldPass arrays refs p = some p' := by
  induction h
  case nil => rfl
  case skip ht _ hi =>
    rw [Pointer.foldPass, if_neg (by simp [ht])]
    exact hi hp
  case entry m n p p₁ p' ht hat _ hi =>
    have hby := hat.foldedBy hp ht
    have hm : m ≤ p.length + 1 := by
      have := hby.depth_add_le
      have := depth_le_length (p := p)
      omega
    rw [Pointer.foldPass, if_pos ht, hat.foldSource hm, Option.bind_some, hi (hby.written hp)]

theorem FoldsAt.eq_of_zero (h : FoldsAt arrays source target 0 p p') : p' = p ∧ isAncestor source p false = false := by
  cases h
  exact ⟨rfl, ‹_›⟩

theorem FoldsOnce.eq_of_zero (h : FoldsOnce arrays refs n p p') (hn : n = 0) : p' = p ∧ Folded refs p := by
  induction h
  case nil => exact ⟨rfl, nofun⟩
  case skip ht _ hi =>
    have ⟨he, hf⟩ := hi hn
    exact ⟨he, List.forall_mem_cons.mpr ⟨fun hs => by simp [ht] at hs, hf⟩⟩
  case entry ht hat _ hi =>
    obtain ⟨rfl, rfl⟩ := Nat.add_eq_zero_iff.mp hn
    obtain ⟨rfl, hs⟩ := hat.eq_of_zero
    have ⟨he, hf⟩ := hi rfl
    exact ⟨he, List.forall_mem_cons.mpr ⟨fun _ => hs, hf⟩⟩

-- As many passes as there are characters and one more are enough.
theorem Folds.foldPasses (h : Folds refs arrays p p') (hp : Written p) (hf : depth p < fuel) :
    foldPasses refs arrays fuel p = some p' := by
  induction h generalizing fuel
  case last h =>
    obtain ⟨fuel, rfl⟩ := Nat.exists_eq_add_one_of_ne_zero (Nat.ne_zero_of_lt hf)
    rw [Pointer.foldPasses, h.foldPass hp, (h.eq_of_zero rfl).1]
    exact if_pos rfl
  case again n p p₁ p' h _ hi =>
    obtain ⟨fuel, rfl⟩ := Nat.exists_eq_add_one_of_ne_zero (Nat.ne_zero_of_lt hf)
    have hby := h.foldedBy hp
    have hle := hby.depth_add_le
    have hne : p₁ ≠ p := by
      rintro rfl
      omega
    rw [Pointer.foldPasses, h.foldPass hp]
    exact (if_neg hne).trans (hi (hby.written hp) (by omega))

theorem Folds.folded (h : Folds refs arrays p p') : Folded refs p' := by
  induction h
  case last h =>
    have ⟨he, hf⟩ := h.eq_of_zero rfl
    exact he ▸ hf
  case again hi => exact hi

-- The bound that is set is never what ends the folding of a written pointer.
theorem exists_folds_foldPasses (refs : RecursionMap) (arrays : ArrayMap) (hp : Written p) : ∃ p',
    Folds refs arrays p p' ∧ foldPasses refs arrays (p.length + 1) p = some p' ∧ (p' = p ∨ Generic arrays p') := by
  obtain ⟨p', h⟩ := exists_folds refs arrays hp
  obtain ⟨_, hby⟩ := h.foldedBy hp
  exact ⟨p', h, h.foldPasses hp (Nat.lt_succ_of_le depth_le_length), hby.eq_or_generic⟩

theorem exists_fold? (refs : RecursionMap) (arrays : ArrayMap) (h : parse? p = some tokens) :
    ∃ p', fold? refs arrays p = some p' ∧ Generic arrays p' ∧ Folded refs p' := by
  have hg : Generic arrays (compile (genericTokens arrays [] tokens)) := generic_compile (ne_of_parse? h)
  obtain ⟨p', hf, ho, hp'⟩ := exists_folds_foldPasses refs arrays ⟨_, rfl⟩
  exact ⟨p', by rw [fold?, toGeneric?_eq h, Option.bind_some, ho], hp'.elim (· ▸ hg) id, hf.folded⟩

theorem fold?_self (hg : Generic arrays p) (hf : Folded refs p) : fold? refs arrays p = some p := by
  rw [fold?, hg, Option.bind_some, Pointer.foldPasses, foldPass_self hf]
  exact if_pos rfl

end Bounds

end Pointer

-- Folding a pointer comes to an end, and to where the loops of it end: not below any place that is folded.  What comes
-- out is generic, and folding it changes nothing, but for the one pointer that is not read as what it is written for.
theorem fold?_ends_folded (refs : RecursionMap) (arrays : ArrayMap) {a : Address} {tokens : Tokens}
    (ha : a.parse? = some tokens) :
    ∃ generic p, a.toGeneric? arrays = some generic ∧ Pointer.Folds refs arrays generic p ∧
      a.fold? refs arrays = some p ∧
      (∀ e ∈ refs, Pointer.isAncestor e.2 e.1 true = true → Pointer.isAncestor e.1 p false = false) ∧
      (a ≠ .tokens [""] → Pointer.toGeneric? arrays p = some p ∧ (Address.text p).fold? refs arrays = some p) := by
  have hg : a.toGeneric? arrays = some (Pointer.compile (Pointer.genericTokens arrays [] tokens)) := by
    rw [Address.toGeneric?, ha, Option.map_some]
  obtain ⟨p, hf, ho, hp⟩ := Pointer.exists_folds_foldPasses refs arrays ⟨_, rfl⟩
  refine ⟨_, p, hg, hf, by rw [Address.fold?, hg, Option.bind_some, ho], hf.folded, fun hn => ?generic⟩
  case generic =>
    have ht : tokens ≠ [""] := by
      rintro rfl
      cases a
      case text => exact Pointer.ne_of_parse? ha rfl
      case tokens => exact hn (by rw [Option.some.inj ha])
    have hgeneric : Pointer.Generic arrays p := hp.elim (· ▸ Pointer.generic_compile ht) id
    exact ⟨hgeneric, Pointer.fold?_self hgeneric hf.folded⟩

-- Lists and tuples inside themselves, two places noted with each other, and one whose text is no pointer.
def nestedRefs : RecursionMap :=
  [("/list/-", ""), ("/a", "/b"), ("/b", "/a"), ("/pair/~", "/pair"), ("/pair/-/pair", "/pair")]

def nestedArrays : ArrayMap := [("/list", 0), ("/pair", 1)]

-- Each of the first two folds brings a list to the front whose item has not been generic before.
theorem fold?_ends_folded_nested :
    (Address.text "/list/3/list/4/pair/2/pair/0").parse? =
        some ["list", "3", "list", "4", "pair", "2", "pair", "0"] ∧
      Pointer.Folds nestedRefs nestedArrays "/list/-/list/4/pair/2/pair/0" "/pair/0" ∧
      (Address.text "/list/3/list/4/pair/2/pair/0").fold? nestedRefs nestedArrays = some "/pair/0" ∧
      (∀ e ∈ nestedRefs, Pointer.isAncestor e.2 e.1 true = true → Pointer.isAncestor e.1 "/pair/0" false = false) ∧
      Pointer.toGeneric? nestedArrays "/pair/0" = some "/pair/0" ∧
      (Address.text "/pair/0").fold? nestedRefs nestedArrays = some "/pair/0" := by
  have hp : (Address.text "/list/3/list/4/pair/2/pair/0").parse? =
      some ["list", "3", "list", "4", "pair", "2", "pair", "0"] := by decide
  have ⟨generic, p, hg, hf, ho, hr, hn⟩ := fold?_ends_folded nestedRefs nestedArrays hp
  have hg' : (Address.text "/list/3/list/4/pair/2/pair/0").toGeneric? nestedArrays =
      some "/list/-/list/4/pair/2/pair/0" := by decide
  have ho' : (Address.text "/list/3/list/4/pair/2/pair/0").fold? nestedRefs nestedArrays = some "/pair/0" := by
    decide +kernel
  obtain rfl := Option.some.inj (hg.symm.trans hg')
  obtain rfl := Option.some.inj (ho.symm.trans ho')
  exact ⟨hp, hf, ho, hr, hn nofun⟩

-- The one empty token is written as a slash, which is another name of the root: as the root it would be generic.
theorem emptyToken_is_not_folded_to_generic :
    ¬∀ (a : Address) (refs : RecursionMap) (arrays : ArrayMap), a.parse?.isSome →
      ∃ p, a.fold? refs arrays = some p ∧ Pointer.toGeneric? arrays p = some p ∧
        (∀ e ∈ refs, Pointer.isAncestor e.2 e.1 true = true → Pointer.isAncestor e.1 p false = false) ∧
        (Address.text p).fold? refs arrays = some p := by
  intro h
  obtain ⟨p, hp, hg, _⟩ := h (.tokens [""]) [] [] rfl
  have hp' : (Address.tokens [""]).fold? [] [] = some "/" := by decide
  obtain rfl := Option.some.inj (hp.symm.trans hp')
  exact absurd hg (by decide)

end FormModel
