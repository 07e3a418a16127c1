import FormModel.Pointer
import Mathlib.Data.List.Basic

/-!
Pointers as text and as tokens.  A written pointer reads back as the tokens it was written from.  There
is one exception, the single empty token, whose text is also a name of the whole document.
-/

namespace FormModel.Pointer

variable {a b c : Char} {cs tail : List Char} {token : String} {tokens more : Tokens} {p : String}

theorem replacePair_nil : replacePair a b x [] = [] := rfl

theorem replacePair_cons_cons : replacePair a b x (c :: d :: cs) =
    if c = a ∧ d = b then x :: replacePair a b x cs else c :: replacePair a b x (d :: cs) := rfl

theorem splitSlashes_cons : splitSlashes (c :: cs) = if c = '/' then [] :: splitSlashes cs
    else match splitSlashes cs with
      | part :: parts => (c :: part) :: parts
      | [] => [[c]] := rfl

theorem hasLooseTilde_cons : hasLooseTilde (c :: cs) =
    (c == '~' && !(cs.head? == some '0' || cs.head? == some '1') || hasLooseTilde cs) := rfl

theorem replacePair_cons_of_ne (h : c ≠ a) : replacePair a b x (c :: cs) = c :: replacePair a b x cs := by
  cases cs
  case nil => rfl
  case cons => rw [replacePair_cons_cons, if_neg fun hp => h hp.1]

theorem replacePair_cons_cons_of_ne (h : c ≠ b) :
    replacePair a b x (a :: c :: cs) = a :: replacePair a b x (c :: cs) := by
  rw [replacePair_cons_cons, if_neg fun hp => h hp.2]

-- Reading `~1` first leaves every `~0` alone, since a written tilde is never followed by a `1`.
theorem replacePair_escapeChars :
    replacePair '~' '1' '/' (escapeChars cs) = cs.flatMap fun c => if c = '~' then ['~', '0'] else [c] := by
  induction cs
  case nil => rfl
  case cons c cs hi =>
    simp only [escapeChars, List.flatMap_cons] at hi ⊢
    rw [escapeChar]
    split <;> try split
    case isTrue h => simp [replacePair_cons_cons_of_ne, replacePair_cons_of_ne, hi]
    case isFalse.isTrue _ h => simp [h, replacePair_cons_cons, hi]
    case isFalse.isFalse h _ => simp [h, replacePair_cons_of_ne, hi]

theorem unescapeChars_escapeChars : unescapeChars (escapeChars cs) = cs := by
  rw [unescapeChars, replacePair_escapeChars]
  induction cs
  case nil => rfl
  case cons c cs hi =>
    by_cases h : c = '~' <;> simp [h, replacePair_cons_cons, replacePair_cons_of_ne, hi]

theorem slash_not_mem_escapeChars : '/' ∉ escapeChars cs := by
  simp only [escapeChars, List.mem_flatMap, not_exists, not_and, escapeChar]
  intro c _
  split <;> try split
  all_goals simp_all [eq_comm]

theorem hasLooseTilde_escapeChars_append :
    hasLooseTilde (escapeChars cs ++ tail) = hasLooseTilde tail := by
  induction cs
  case nil => rfl
  case cons c cs hi =>
    simp only [escapeChars, List.flatMap_cons, List.append_assoc] at hi ⊢
    rw [escapeChar]
    split <;> try split
    all_goals simp_all [hasLooseTilde_cons]

theorem splitSlashes_of_not_mem (h : '/' ∉ cs) : splitSlashes cs = [cs] := by
  induction cs
  case nil => rfl
  case cons c cs hi =>
    simp only [List.mem_cons, not_or] at h
    rw [splitSlashes_cons, if_neg (Ne.symm h.1), hi h.2]

theorem splitSlashes_append_slash (h : '/' ∉ cs) :
    splitSlashes (cs ++ '/' :: tail) = cs :: splitSlashes tail := by
  induction cs
  case nil => rfl
  case cons c cs hi =>
    simp only [List.mem_cons, not_or] at h
    rw [List.cons_append, splitSlashes_cons, if_neg (Ne.symm h.1), hi h.2]

theorem splitSlashes_ne_nil : splitSlashes cs ≠ [] := by
  cases cs
  case nil => exact List.cons_ne_nil _ _
  case cons => rw [splitSlashes_cons]; repeat' split <;> simp

theorem splitSlashes_eq_singleton_nil (h : splitSlashes cs = [[]]) : cs = [] := by
  cases cs
  case nil => rfl
  case cons c cs =>
    rw [splitSlashes_cons] at h
    split at h
    case isTrue => simp [splitSlashes_ne_nil] at h
    case isFalse => split at h <;> simp at h

theorem replacePair_eq_nil (h : replacePair a b c cs = []) : cs = [] := by
  match cs with
  | [] => rfl
  | [x] => contradiction
  | x :: y :: rest => rw [replacePair_cons_cons] at h; split at h <;> simp at h

-- The characters of a written pointer.
def bodyOf (tokens : Tokens) : List Char := tokens.flatMap fun token => '/' :: escapeChars token.toList

theorem compile_eq_ofList : compile tokens = String.ofList (bodyOf tokens) := by
  simp only [compile, compileWith, bodyOf]
  congr 1
  induction tokens
  case nil => rfl
  case cons token _ hi =>
    simp only [List.flatMap_cons, hi]
    split
    case isTrue h =>
      simp [String.isEmpty_iff.mp h, escapeChars]
    case isFalse => rfl

@[simp]
theorem toList_compile : (compile tokens).toList = bodyOf tokens := by
  simp [compile_eq_ofList]

theorem compile_append : compile (tokens ++ more) = compile tokens ++ compile more := by
  simp [compile_eq_ofList, bodyOf, String.ofList_append]

theorem compile_singleton : compile [token] = "/" ++ escape token := by
  apply String.toList_injective
  simp [bodyOf, escape]

theorem compile_concat : compile (tokens ++ [token]) = child (compile tokens) token := by
  rw [compile_append, compile_singleton, child, String.append_assoc]

theorem escapeChars_of_isDigit (h : ∀ c ∈ cs, c.isDigit) : escapeChars cs = cs := by
  induction cs
  case nil => rfl
  case cons c cs hi =>
    have hc : c ≠ '~' ∧ c ≠ '/' := by constructor <;> (rintro rfl; exact absurd (h _ List.mem_cons_self) (by decide))
    simp only [escapeChars, List.flatMap_cons] at hi ⊢
    simp [escapeChar, hc, hi fun c hm => h c (List.mem_cons_of_mem _ hm)]

theorem escape_toString {i : Nat} : escape (toString i) = toString i := by
  rw [Nat.toString_eq_repr, escape, Nat.toList_repr, Nat.repr_eq_ofList_toDigits,
    escapeChars_of_isDigit fun _ => Nat.isDigit_of_mem_toDigits (by decide) (by decide)]

-- Positions are written as they are.
theorem compile_concat_index {i : Nat} :
    compile (tokens ++ [toString i]) = compile tokens ++ "/" ++ toString i := by
  rw [compile_concat, child, escape_toString]

theorem hasLooseTilde_bodyOf : hasLooseTilde (bodyOf tokens) = false := by
  induction tokens
  case nil => rfl
  case cons token tokens hi =>
    simp only [bodyOf, List.flatMap_cons, List.cons_append] at hi ⊢
    simp [hasLooseTilde_cons, hasLooseTilde_escapeChars_append, hi]

theorem splitSlashes_escapeChars_append :
    splitSlashes (escapeChars cs ++ bodyOf tokens) =
      escapeChars cs :: tokens.map (escapeChars ·.toList) := by
  induction tokens generalizing cs
  case nil => simp [bodyOf, splitSlashes_of_not_mem slash_not_mem_escapeChars]
  case cons token tokens hi =>
    have hb : bodyOf (token :: tokens) = '/' :: (escapeChars token.toList ++ bodyOf tokens) := rfl
    rw [hb, splitSlashes_append_slash slash_not_mem_escapeChars, hi, List.map_cons]

theorem escapeChars_toList_injective : Function.Injective fun token : String => escapeChars token.toList :=
  fun _ _ ht => String.toList_injective (by simpa only [unescapeChars_escapeChars] using congrArg unescapeChars ht)

theorem bodyOf_injective {tokens' : Tokens} (h : bodyOf tokens = bodyOf tokens') : tokens = tokens' := by
  cases tokens <;> cases tokens' <;> try contradiction
  case nil.nil => rfl
  case cons.cons token tokens token' tokens' =>
    have hs : escapeChars token.toList :: tokens.map (escapeChars ·.toList) =
        escapeChars token'.toList :: tokens'.map (escapeChars ·.toList) := by
      rw [← splitSlashes_escapeChars_append, ← splitSlashes_escapeChars_append]
      exact congrArg splitSlashes (List.cons.inj h).2
    exact List.map_injective_iff.mpr escapeChars_toList_injective hs

theorem compile_injective {tokens' : Tokens} (h : compile tokens = compile tokens') : tokens = tokens' :=
  bodyOf_injective (by simpa only [toList_compile] using congrArg String.toList h)

theorem tokensOfBody_bodyOf (h : tokens ≠ [""]) : tokensOfBody (bodyOf tokens) = some tokens := by
  cases tokens
  case nil => rfl
  case cons token tokens =>
    have hs : splitSlashes (escapeChars token.toList ++ bodyOf tokens) = _ := splitSlashes_escapeChars_append
    have hn : escapeChars token.toList ++ bodyOf tokens ≠ [] := by
      intro hn
      simp only [List.append_eq_nil_iff] at hn
      cases tokens
      case nil =>
        have ht := congrArg unescapeChars hn.1
        rw [unescapeChars_escapeChars] at ht
        simp [unescapeChars, replacePair_nil] at ht
        exact h (by rw [ht])
      case cons => simp [bodyOf] at hn
    have hb : bodyOf (token :: tokens) = '/' :: (escapeChars token.toList ++ bodyOf tokens) := rfl
    rw [hb, tokensOfBody, hs]
    · simp [unescapeChars_escapeChars, Function.comp_def]
    · simpa using hn

theorem parse?_compile (h : tokens ≠ [""]) : parse? (compile tokens) = some tokens := by
  have hh : (bodyOf tokens).head? ≠ some '#' := by cases tokens <;> simp [bodyOf]
  have hs : ((bodyOf tokens).isEmpty || (bodyOf tokens).head? == some '/') = true := by
    cases tokens <;> simp [bodyOf]
  simp only [parse?, parse, toList_compile, hasLooseTilde_bodyOf, hs]
  simp [hh, tokensOfBody_bodyOf h, Except.toOption]

theorem tokensOfBody_ne : tokensOfBody cs ≠ some [""] := by
  intro h
  rw [tokensOfBody.eq_def] at h
  split at h <;> simp only [Option.some.injEq, reduceCtorEq, List.map_eq_cons_iff] at h
  case h_3 rest hr =>
    obtain ⟨part, parts, hs, ht, hp⟩ := h
    have hu : unescapeChars part = [] := by simpa using congrArg String.toList ht
    have hn : part = [] := replacePair_eq_nil (replacePair_eq_nil hu)
    rw [List.map_eq_nil_iff.mp hp, hn] at hs
    exact hr (by rw [splitSlashes_eq_singleton_nil hs])

theorem exists_tokensOfBody_iff : (∃ tokens, tokensOfBody cs = some tokens) ↔ ∀ c ∈ cs.head?, c = '/' := by
  rw [tokensOfBody.eq_def]
  split
  case h_1 => simp
  case h_2 => simp
  case h_3 => simp
  case h_4 hn _ hs =>
    refine iff_of_false nofun fun h => ?_
    rcases cs with _ | ⟨c, rest⟩
    · exact hn rfl
    · exact hs rest (congrArg (· :: rest) (h c rfl))

-- What is read is never the exception, so reading, writing and reading again changes nothing.
theorem ne_of_parse? (h : parse? p = some tokens) : tokens ≠ [""] := by
  rintro rfl
  simp only [parse?, parse] at h
  split at h <;> try split at h
  case isFalse.isFalse =>
    split at h
    case h_1 tokens ht =>
      simp only [Except.toOption, Option.some.injEq] at h
      exact tokensOfBody_ne (h ▸ ht)
    case h_2 => simp [Except.toOption] at h
  all_goals simp [Except.toOption] at h

theorem parse?_eq_some : parse? p = some tokens ↔ parse p = .ok tokens := by
  rw [parse?]
  cases parse p <;> simp [Except.toOption]

theorem parse_compile_emptyToken : parse (compile [""]) = .ok [] := by with_unfolding_all rfl

-- Tokens come back from their text, all but the single empty token, and no text is read as that.
theorem text_tokens_inverse :
    (∀ tokens, parse (compile tokens) = .ok (if tokens = [""] then [] else tokens)) ∧
      ∀ text tokens, parse text = .ok tokens → tokens ≠ [""] ∧ parse (compile tokens) = parse text := by
  have hread : ∀ tokens, parse (compile tokens) = .ok (if tokens = [""] then [] else tokens) := by
    intro tokens
    split
    case isTrue he => exact he ▸ parse_compile_emptyToken
    case isFalse hn => exact parse?_eq_some.mp (parse?_compile hn)
  refine ⟨hread, fun text tokens h => ?_⟩
  have hn : tokens ≠ [""] := ne_of_parse? (parse?_eq_some.mpr h)
  exact ⟨hn, by rw [hread, if_neg hn, h]⟩

-- The fragment is decoded, and then every kind of token is in it.
theorem text_tokens_inverse_fragment :
    parse "#/a%7Eb/~1%25%23//%C3%A9" = .ok ["a~b", "/%#", "", "é"] ∧
      ["a~b", "/%#", "", "é"] ≠ [""] ∧
        parse (compile ["a~b", "/%#", "", "é"]) = parse "#/a%7Eb/~1%25%23//%C3%A9" := by
  have hp : parse "#/a%7Eb/~1%25%23//%C3%A9" = .ok ["a~b", "/%#", "", "é"] := by with_unfolding_all rfl
  exact ⟨hp, text_tokens_inverse.2 _ _ hp⟩

end FormModel.Pointer
