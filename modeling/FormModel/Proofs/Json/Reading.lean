import FormModel.Proofs.Dict
import FormModel.Proofs.Json.Text

/-!
A value is read back from its text.  What is asked of it: it is not nested too deep, no object in it has two members of
one name, and its floats are read back, which has to be asked since the reader rounds more than once.
-/

namespace FormModel

namespace Json

open Reader

variable {j : Json} {c : Char} {r cs : List Char} {depth fuel : Nat} {x : Number}

mutual
-- Every float inside is read back from its own text.
def Reread : Json → Prop
  | .num (.float f hf) => parse? (Number.text (.float f hf)) = some (.num (.float f hf))
  | .arr items => RereadItems items
  | .obj members => RereadMembers members
  | _ => True

def RereadItems : List Json → Prop
  | [] => True
  | j :: rest => j.Reread ∧ RereadItems rest

def RereadMembers : List (String × Json) → Prop
  | [] => True
  | (_, j) :: rest => j.Reread ∧ RereadMembers rest
end

theorem rereadItems_iff {items : List Json} : RereadItems items ↔ ∀ j ∈ items, j.Reread := by
  induction items <;> simp_all [RereadItems]

theorem rereadMembers_iff {members : List (String × Json)} : RereadMembers members ↔ ∀ e ∈ members, e.2.Reread := by
  induction members <;> simp_all [RereadMembers]

theorem skipBlanks_cons (hc : kindOf c ≠ "") : skipBlanks (c :: cs) = c :: cs := by
  rw [skipBlanks, if_neg]
  rintro (rfl | rfl | rfl | rfl) <;> exact hc rfl

theorem skipBlanks_chars : skipBlanks (j.chars ++ r) = j.chars ++ r := by
  obtain ⟨c, rest, hc, hk⟩ := exists_chars j
  rw [hc, List.cons_append, skipBlanks_cons (hk ▸ kind_ne)]

-- A value without members is read as such.
theorem value_scalar (hj : j.isContainer = false) : value depth (fuel + 1) (j.chars ++ r) = scalar (j.chars ++ r) := by
  obtain ⟨c, rest, hc, hk⟩ := exists_chars j
  have hne : kindOf c ≠ "array" ∧ kindOf c ≠ "object" := by
    rw [hk]
    cases j <;> simp_all [kind, isContainer]
  rw [value, skipBlanks_chars, hc, List.cons_append]
  split
  case h_1 heq => exact absurd rfl ((List.cons.inj heq).1 ▸ hne.1)
  case h_2 heq => exact absurd rfl ((List.cons.inj heq).1 ▸ hne.2)
  case h_3 => rfl

-- A number that is read from its own text is read from it in every place.
theorem scalar_of_parse? (h : parse? x.text = some (.num x)) (hr : Closing r) :
    scalar (chars (.num x) ++ r) = some (.num x, r) := by
  have hnil : Closing [] := fun _ h => nomatch h
  have hscalar : value maxDepth (2 * x.text.toList.length + 2) (chars (.num x) ++ []) = scalar (chars (.num x) ++ []) :=
    value_scalar rfl
  rw [chars_num, List.append_nil, ← List.append_nil x.text.toList, Number.scalar_text_append hnil,
    List.append_nil] at hscalar
  rw [parse?, parseWithin?, hscalar] at h
  rw [chars_num, Number.scalar_text_append hr]
  cases ha : assemble x.isNegative x.numeral.whole x.numeral.fraction x.numeral.exponent
  case none => simp [ha] at h
  case some i =>
    simp [ha, skipBlanks] at h
    rw [h]
    rfl

theorem scalar_chars (hj : j.isContainer = false) (hf : j.Reread) (hr : Closing r) :
    scalar (j.chars ++ r) = some (j, r) := by
  cases j <;> try contradiction
  case null => rfl
  case bool b => cases b <;> rfl
  case str name =>
    rw [chars_str, List.cons_append, scalar, stringTail_quoted]
    rfl
  case num x =>
    cases x
    case int i hi =>
      rw [chars_num, Number.scalar_text_append hr]
      simp only [Number.isNegative, Number.numeral, @Number.assemble_int i hi]
      rfl
    case float f hf' => exact scalar_of_parse? hf hr

-- A value is read from its text, with enough fuel for the length of the text, and what comes behind it is left.
def IsReadAt (depth : Nat) (j : Json) : Prop :=
  ∀ fuel r, Closing r → 2 * j.chars.length ≤ fuel → value depth fuel (j.chars ++ r) = some (j, r)

theorem isReadAt_scalar (hj : j.isContainer = false) (hf : j.Reread) : IsReadAt depth j := by
  intro fuel r hr hfuel
  have := List.length_pos_of_ne_nil (chars_ne_nil (j := j))
  obtain ⟨fuel, rfl⟩ : ∃ n, fuel = n + 1 := ⟨fuel - 1, by omega⟩
  rw [value_scalar hj, scalar_chars hj hf hr]

-- One item is read, and what comes behind it decides how to go on.
section Items

variable {as acc : List Json}

theorem items_comma (hj : IsReadAt depth j) (hfuel : 2 * j.chars.length ≤ fuel) :
    items depth acc (fuel + 1) (j.chars ++ ',' :: cs) = items depth (j :: acc) fuel cs := by
  rw [items, hj fuel _ (closing_cons (.inl rfl)) hfuel]
  rfl

theorem items_close (hj : IsReadAt depth j) (hfuel : 2 * j.chars.length ≤ fuel) :
    items depth acc (fuel + 1) (j.chars ++ ']' :: cs) = some (.arr (j :: acc).reverse, cs) := by
  rw [items, hj fuel _ (closing_cons (.inr (.inl rfl))) hfuel]
  rfl

theorem items_chars (hv : ∀ a ∈ j :: as, IsReadAt depth a)
    (hfuel : 2 * (j.chars ++ as.flatMap fun a => ',' :: a.chars).length < fuel) :
    items depth acc fuel (j.chars ++ ((as.flatMap fun a => ',' :: a.chars) ++ ']' :: r)) =
      some (.arr (acc.reverse ++ j :: as), r) := by
  induction as generalizing j acc fuel
  all_goals
    obtain ⟨fuel, rfl⟩ : ∃ n, fuel = n + 1 := ⟨fuel - 1, by omega⟩
    have ⟨hj, has⟩ := List.forall_mem_cons.mp hv
    rw [List.length_append] at hfuel
  case nil => rw [List.flatMap_nil, List.nil_append, items_close hj (by omega), List.reverse_cons]
  case cons a as hi =>
    rw [List.flatMap_cons, List.cons_append, List.length_cons] at hfuel
    rw [List.flatMap_cons, List.cons_append, List.cons_append, List.append_assoc, items_comma hj (by omega),
      hi has (by omega), List.reverse_cons, List.append_assoc, List.singleton_append]

end Items

section Members

variable {e : String × Json} {es acc : List (String × Json)}

theorem members_comma (he : IsReadAt depth e.2) (hfuel : 2 * (memberChars e).length ≤ fuel) :
    members depth acc (fuel + 1) (memberChars e ++ ',' :: cs) = members depth (Dict.insert acc e.1 e.2) fuel cs := by
  have hvalue := he fuel (',' :: cs) (closing_cons (.inl rfl)) (by simp [memberChars] at hfuel; omega)
  simp [members, memberChars, skipBlanks, stringTail_quoted, hvalue]

theorem members_close (he : IsReadAt depth e.2) (hfuel : 2 * (memberChars e).length ≤ fuel) :
    members depth acc (fuel + 1) (memberChars e ++ '\x7d' :: cs) = some (.obj (Dict.insert acc e.1 e.2), cs) := by
  have hvalue := he fuel ('\x7d' :: cs) (closing_cons (.inr (.inr rfl))) (by simp [memberChars] at hfuel; omega)
  simp [members, memberChars, skipBlanks, stringTail_quoted, hvalue]

theorem members_chars (hv : ∀ a ∈ e :: es, IsReadAt depth a.2) (hn : (Dict.keys (acc ++ e :: es)).Nodup)
    (hfuel : 2 * (memberChars e ++ es.flatMap fun a => ',' :: memberChars a).length < fuel) :
    members depth acc fuel (memberChars e ++ ((es.flatMap fun a => ',' :: memberChars a) ++ '\x7d' :: r)) =
      some (.obj (acc ++ e :: es), r) := by
  induction es generalizing e acc fuel
  all_goals
    obtain ⟨fuel, rfl⟩ : ∃ n, fuel = n + 1 := ⟨fuel - 1, by omega⟩
    have ⟨he, hes⟩ := List.forall_mem_cons.mp hv
    have hinsert : Dict.insert acc e.1 e.2 = acc ++ [e] := Dict.insert_of_not_has (Dict.not_has_of_nodup_append hn)
    rw [List.length_append] at hfuel
  case nil => rw [List.flatMap_nil, List.nil_append, members_close he (by omega), hinsert]
  case cons a es hi =>
    rw [List.flatMap_cons, List.cons_append, List.length_cons] at hfuel
    rw [List.flatMap_cons, List.cons_append, List.cons_append, List.append_assoc, members_comma he (by omega), hinsert,
      hi hes (by simpa using hn) (by omega), List.append_assoc, List.singleton_append]

end Members

theorem isReadAt_arr {as : List Json} (hv : ∀ a ∈ as, IsReadAt depth a) : IsReadAt (depth + 1) (.arr as) := by
  intro fuel r hr hfuel
  rw [chars_arr] at hfuel ⊢
  obtain ⟨fuel, rfl⟩ : ∃ n, fuel = n + 1 := ⟨fuel - 1, by simp at hfuel; omega⟩
  cases as
  case nil => rfl
  case cons a as =>
    have hitems : items depth [] fuel (a.chars ++ ((as.flatMap fun a => ',' :: a.chars) ++ ']' :: r)) =
        some (.arr (a :: as), r) := items_chars hv (by simp [entriesText] at hfuel; simp; omega)
    have htext : entriesText chars (a :: as) ']' ++ r = a.chars ++ ((as.flatMap fun a => ',' :: a.chars) ++ ']' :: r) := by
      simp [entriesText]
    rw [List.cons_append, htext, value, skipBlanks_cons (by decide)]
    simp only [skipBlanks_chars, Nat.add_one_ne_zero, if_false, Nat.add_one_sub_one]
    split
    case h_1 heq =>
      have hhead := congrArg List.head? heq
      rw [List.head?_append_of_ne_nil _ chars_ne_nil] at hhead
      exact absurd hhead (head?_chars_ne rfl)
    case h_2 => exact hitems

theorem isReadAt_obj {es : List (String × Json)} (hv : ∀ e ∈ es, IsReadAt depth e.2) (hn : (Dict.keys es).Nodup) :
    IsReadAt (depth + 1) (.obj es) := by
  intro fuel r hr hfuel
  rw [chars_obj] at hfuel ⊢
  obtain ⟨fuel, rfl⟩ : ∃ n, fuel = n + 1 := ⟨fuel - 1, by simp at hfuel; omega⟩
  cases es
  case nil => rfl
  case cons e es =>
    have hmembers : members depth [] fuel (memberChars e ++ ((es.flatMap fun e => ',' :: memberChars e) ++ '\x7d' :: r)) =
        some (.obj (e :: es), r) := members_chars hv hn (by simp [entriesText] at hfuel; simp; omega)
    have htext : entriesText memberChars (e :: es) '\x7d' ++ r =
        memberChars e ++ ((es.flatMap fun e => ',' :: memberChars e) ++ '\x7d' :: r) := by
      simp [entriesText]
    rw [List.cons_append, htext, value, skipBlanks_cons (by decide)]
    simp only [memberChars, List.cons_append, skipBlanks_cons (show kindOf '"' ≠ "" by decide), Nat.add_one_ne_zero,
      if_false, Nat.add_one_sub_one] at hmembers ⊢
    exact hmembers

-- Induction on the value; the depth that is left falls by one with each bracket.
theorem isReadAt_chars (hd : j.Distinct) (hf : j.Reread) (hdepth : j.depth ≤ depth) : IsReadAt depth j := by
  induction j using inductionInside generalizing depth
  case scalar j hj => exact isReadAt_scalar hj hf
  case arr as hi =>
    rw [Json.depth] at hdepth
    obtain ⟨depth, rfl⟩ : ∃ n, depth = n + 1 := ⟨depth - 1, by omega⟩
    refine isReadAt_arr fun a ha => hi a ha (distinctItems_iff.mp hd a ha) (rereadItems_iff.mp hf a ha) ?_
    exact (depth_le_depthItems ha).trans (by omega)
  case obj es hi =>
    rw [Json.depth] at hdepth
    obtain ⟨depth, rfl⟩ : ∃ n, depth = n + 1 := ⟨depth - 1, by omega⟩
    refine isReadAt_obj (fun e he => hi e he (distinctMembers_iff.mp hd.2 e he) (rereadMembers_iff.mp hf e he) ?_) hd.1
    exact (depth_le_depthMembers he).trans (by omega)

-- A value is the value of its text.
theorem parse?_compact (hd : j.Distinct) (hf : j.Reread) (hdepth : j.depth ≤ maxDepth) : parse? j.compact = some j := by
  have hread := isReadAt_chars hd hf hdepth (2 * j.chars.length + 2) [] (fun _ h => nomatch h) (by omega)
  rw [List.append_nil] at hread
  rw [parse?, parseWithin?, show j.compact.toList = j.chars from rfl, hread]
  rfl

end Json

end FormModel
