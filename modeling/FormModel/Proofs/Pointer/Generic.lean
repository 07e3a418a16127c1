import FormModel.Pointer.Generic
import FormModel.Proofs.Pointer.Path
import Mathlib.Data.List.Infix

/-!
Positions taken out of pointers and put into them.  The positions that are taken out of a pointer when it is made
generic put it together again, and those put into a generic pointer are taken out again, whatever is known of arrays.
-/

namespace FormModel

namespace Pointer

variable {arrays : ArrayMap} {before tokens : Tokens} {token : String} {indices : List Nat} {known : Option ArrayMap}

-- The positions that are taken out of the tokens of a pointer when it is made generic, in their order.
def takenOut (arrays : ArrayMap) (before tokens : Tokens) : List Nat :=
  (tokens.zip (genericTokens arrays before tokens)).filterMap fun (token, generic) =>
    if token = generic then none else index? token

-- The numbers of slots of the arrays whose dashes take positions, in their order.
def slotsOfDashes (arrays : ArrayMap) (before tokens : Tokens) : List Nat :=
  (tokens.inits.zip tokens).filterMap fun (inFront, token) =>
    if token = "-" then arrays.get? (compile (before ++ inFront)) else none

-- Whether each position that takes the place of a dash is behind the slots of the array.
def BehindSlots (slots indices : List Nat) : Prop :=
  ∀ {k n i : Nat}, slots[k]? = some n → indices[k]? = some i → n ≤ i

section Tokens

theorem genericToken_of_not_index (h : index? token = none) : genericToken arrays before token = token := by
  unfold genericToken
  split
  case h_1 hi => exact nomatch h.symm.trans hi
  case h_2 => rfl

theorem genericToken_dash : genericToken arrays before "-" = "-" := genericToken_of_not_index rfl

theorem genericToken_eq_or (arrays : ArrayMap) (before : Tokens) (token : String) :
    genericToken arrays before token = token ∨
    ∃ slots i, arrays.get? (compile before) = some slots ∧ index? token = some i ∧ slots ≤ i ∧
      genericToken arrays before token = "-" := by
  unfold genericToken
  split
  case h_1 slots i hs hi =>
    split
    case isTrue hl => exact .inr ⟨slots, i, hs, hi, hl, rfl⟩
    case isFalse => exact .inl rfl
  case h_2 => exact .inl rfl

theorem genericToken_index {slots i : Nat} (hs : arrays.get? (compile before) = some slots) (hi : i < 2 ^ 64)
    (hl : slots ≤ i) : genericToken arrays before (toString i) = "-" := by
  simp only [genericToken, hs, index?_toString hi, if_pos hl]

theorem genericToken_genericToken :
    genericToken arrays before (genericToken arrays before token) = genericToken arrays before token := by
  rcases genericToken_eq_or arrays before token with h | ⟨_, _, _, _, _, h⟩
  case inl => rw [h, h]
  case inr => rw [h, genericToken_dash]

@[simp]
theorem length_genericTokens : (genericTokens arrays before tokens).length = tokens.length := by
  induction tokens generalizing before
  case nil => rfl
  case cons token tokens hi => simp [genericTokens, hi]

theorem genericTokens_genericTokens :
    genericTokens arrays before (genericTokens arrays before tokens) = genericTokens arrays before tokens := by
  induction tokens generalizing before
  case nil => rfl
  case cons token tokens hi => simp only [genericTokens, genericToken_genericToken, hi]

theorem genericTokens_ne (h : tokens ≠ [""]) : genericTokens arrays before tokens ≠ [""] := by
  intro he
  match tokens with
  | [] => contradiction
  | [token] =>
    have ht : genericToken arrays before token = "" := (List.cons.inj he).1
    rcases genericToken_eq_or arrays before token with hg | ⟨_, _, _, _, _, hg⟩
    case inl => exact h (by rw [← hg, ht])
    case inr => exact absurd (ht.symm.trans hg) (by decide)
  | _ :: _ :: _ => exact nomatch (List.cons.inj he).2

end Tokens

section Indices

theorem takenOut_cons : takenOut arrays before (token :: tokens) =
    (if token = genericToken arrays before token then none else index? token).toList ++
      takenOut arrays (before ++ [genericToken arrays before token]) tokens := by
  simp only [takenOut, genericTokens, List.zip_cons_cons, List.filterMap_cons]
  split <;> simp_all

theorem slotsOfDashes_cons : slotsOfDashes arrays before (token :: tokens) =
    (if token = "-" then arrays.get? (compile before) else none).toList ++
      slotsOfDashes arrays (before ++ [token]) tokens := by
  simp only [slotsOfDashes, List.inits, List.zip_cons_cons, List.filterMap_cons, List.zip_map_left, List.filterMap_map,
    List.append_nil]
  split <;> simp_all

theorem indexTokens_of_not (h : ¬(token = "-" ∧ isKnownArray known before = true)) :
    indexTokens known before (token :: tokens) indices = token :: indexTokens known (before ++ [token]) tokens indices := by
  cases indices <;> rw [indexTokens, if_neg h]

-- Where an array is looked for or taken for granted, every dash that stands for a position takes one.
theorem indexTokens_takenOut (hk : known = some arrays ∨ known = none) (hd : "-" ∉ tokens) :
    indexTokens known before (genericTokens arrays before tokens) (takenOut arrays before tokens) = tokens := by
  induction tokens generalizing before
  case nil => rfl
  case cons token tokens hi =>
    have ⟨hne, hd⟩ := not_or.mp (mt List.mem_cons.mpr hd)
    rw [genericTokens, takenOut_cons]
    rcases genericToken_eq_or arrays before token with hg | ⟨slots, i, hs, hx, hl, hg⟩
    case inl =>
      rw [hg, if_pos rfl, indexTokens_of_not fun h => hne h.1.symm]
      exact congrArg _ (hi hd)
    case inr =>
      have hknown : isKnownArray known before = true := by
        rcases hk with rfl | rfl <;> simp [isKnownArray, Dict.has, hs]
      rw [hg, if_neg (Ne.symm hne), hx, Option.toList_some, List.singleton_append, indexTokens, if_pos ⟨rfl, hknown⟩,
        toString_of_index? hx]
      exact congrArg _ (hi hd)

theorem genericTokens_indexTokens (hg : genericTokens arrays before tokens = tokens) (hi : ∀ i ∈ indices, i < 2 ^ 64)
    (hs : BehindSlots (slotsOfDashes arrays before tokens) indices) :
    genericTokens arrays before (indexTokens (some arrays) before tokens indices) = tokens := by
  induction tokens generalizing before indices
  case nil => rfl
  case cons token tokens hn =>
    have ⟨ht, hrest⟩ := List.cons.inj hg
    rw [ht] at hrest
    rw [slotsOfDashes_cons] at hs
    by_cases hd : token = "-" ∧ isKnownArray (some arrays) before = true
    case pos =>
      obtain ⟨slots, hslots⟩ := Option.isSome_iff_exists.mp hd.2
      rw [if_pos hd.1, hslots] at hs
      cases indices
      case nil => rw [indexTokens, if_pos hd, hg]
      case cons i indices =>
        have ⟨hlt, hi⟩ := List.forall_mem_cons.mp hi
        have hdash := genericToken_index hslots hlt (hs (k := 0) rfl rfl)
        rw [indexTokens, if_pos hd, genericTokens, hdash, ← hd.1, hn hrest hi fun h => hs (k := _ + 1) h]
    case neg =>
      have hnone : (if token = "-" then arrays.get? (compile before) else none) = none := by
        split
        case isTrue h => exact Option.not_isSome_iff_eq_none.mp fun hsome => hd ⟨h, hsome⟩
        case isFalse => rfl
      rw [hnone] at hs
      rw [indexTokens_of_not hd, genericTokens, ht, hn hrest hi hs]

end Indices

-- The positions that are taken out of a pointer put it together again, and positions (numbers of 64 bits) that are put
-- into a generic pointer, as many as there are, are taken out of it again.
theorem generic_indexed_inverse (arrays : ArrayMap) :
    (∀ p tokens, (Address.text p).parse? = some tokens → "-" ∉ tokens →
      ∃ g, (Address.text p).toGeneric? arrays = some g ∧
        (Address.text g).toIndexed? (takenOut arrays [] tokens) (some arrays) = (Address.text p).compile? ∧
        (Address.text g).toIndexed? (takenOut arrays [] tokens) none = (Address.text p).compile?) ∧
    ∀ g tokens indices, (Address.text g).toGeneric? arrays = some g → (Address.text g).parse? = some tokens →
      (∀ i ∈ indices, i < 2 ^ 64) → BehindSlots (slotsOfDashes arrays [] tokens) indices →
      ∃ p, (Address.text g).toIndexed? indices (some arrays) = some p ∧ (Address.text p).toGeneric? arrays = some g := by
  refine ⟨?takenOut, ?putIn⟩
  case takenOut =>
    intro p tokens hp hd
    have hne := ne_of_parse? hp
    have hg : (Address.text (compile (genericTokens arrays [] tokens))).parse? = some (genericTokens arrays [] tokens) :=
      parse?_compile (genericTokens_ne hne)
    refine ⟨compile (genericTokens arrays [] tokens), by rw [Address.toGeneric?, hp, Option.map_some], ?_, ?_⟩
    all_goals
      rw [Address.toIndexed?, hg, Option.map_some, indexTokens_takenOut (by simp) hd, Address.compile?, hp, Option.map_some]
  case putIn =>
    intro g tokens indices hg hp hi hs
    rw [Address.toGeneric?, hp, Option.map_some, Option.some.injEq] at hg
    have hgeneric : genericTokens arrays [] tokens = tokens := by
      have hp' : (Address.text g).parse? = some (genericTokens arrays [] tokens) :=
        hg ▸ parse?_compile (genericTokens_ne (ne_of_parse? hp))
      exact Option.some.inj (hp'.symm.trans hp)
    have hput := genericTokens_indexTokens hgeneric hi hs
    have hne : indexTokens (some arrays) [] tokens indices ≠ [""] := by
      intro he
      rw [he, genericTokens, genericToken_of_not_index rfl, genericTokens] at hput
      exact ne_of_parse? hp hput.symm
    have hr : (Address.text (compile (indexTokens (some arrays) [] tokens indices))).parse? = some _ := parse?_compile hne
    refine ⟨_, by rw [Address.toIndexed?, hp, Option.map_some], ?_⟩
    rw [Address.toGeneric?, hr, Option.map_some, hput, ← hgeneric, hg]

-- A list with one slot, whose other items have two; in the second of these there is a list of tags.
def pairArrays : ArrayMap := [("", 1), ("/-", 2), ("/-/1/tags", 0)]

theorem generic_indexed_inverse_pairs :
    (∃ g, (Address.text "/4/1/tags/7").toGeneric? pairArrays = some g ∧
      (Address.text g).toIndexed? [4, 7] (some pairArrays) = (Address.text "/4/1/tags/7").compile? ∧
      (Address.text g).toIndexed? [4, 7] none = (Address.text "/4/1/tags/7").compile?) ∧
    ∃ p, (Address.text "/-/1/tags/-").toIndexed? [9, 0, 3] (some pairArrays) = some p ∧
      (Address.text p).toGeneric? pairArrays = some "/-/1/tags/-" := by
  have ⟨hout, hin⟩ := generic_indexed_inverse pairArrays
  have ht : takenOut pairArrays [] ["4", "1", "tags", "7"] = [4, 7] := by decide
  have hs : slotsOfDashes pairArrays [] ["-", "1", "tags", "-"] = [1, 0] := by decide
  refine ⟨ht ▸ hout _ ["4", "1", "tags", "7"] (by decide) (by decide), ?_⟩
  refine hin _ ["-", "1", "tags", "-"] _ (by decide) (by decide) (by decide) ?_
  rw [hs]
  rintro (_ | _ | k) n i hn hi
  case zero | succ.zero =>
    cases hn
    cases hi
    decide
  case succ.succ => contradiction

end Pointer

end FormModel
