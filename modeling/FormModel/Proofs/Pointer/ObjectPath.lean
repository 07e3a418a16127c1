import FormModel.Pointer.ObjectPath
import Mathlib.Data.List.Chain

/-!
Object paths read back.  Tokens that are written as names, in brackets or in quotes, in any mixture, are the tokens that
are read.
-/

namespace FormModel

namespace ObjectPath

-- The marks that a token in brackets may stand between.
inductive Quote
  | single
  | double
  deriving DecidableEq

def Quote.char : Quote → Char
  | single => '\''
  | double => '"'

-- A token in one of the forms in which a path may have it.
inductive Segment
  | name (dotted : Bool) (token : String) (nonempty : token ≠ "") (plain : '.' ∉ token.toList ∧ '[' ∉ token.toList)
  | bare (token : String) (closed : ']' ∉ token.toList) (unquoted : ∀ q : Quote, token.toList.head? ≠ some q.char)
  | quoted (q : Quote) (token : String) (closed : q.char ∉ token.toList)

namespace Segment

def token : Segment → String
  | name _ token _ _ | bare token _ _ | quoted _ token _ => token

def written : Segment → List Char
  | name dotted token _ _ => (if dotted then ['.'] else []) ++ token.toList
  | bare token _ _ => '[' :: (token.toList ++ [']'])
  | quoted q token _ => '[' :: q.char :: (token.toList ++ [q.char, ']'])

-- Whether the second segment may stand right behind the first: between two names there is a dot.
def Adjoins : Segment → Segment → Prop
  | name .., name dotted .. => dotted = true
  | _, _ => True

end Segment

-- The path that is made up of segments.
def ofSegments (segments : List Segment) : String := String.ofList (segments.flatMap Segment.written)

variable {cs rest current : List Char} {stop : Char} {q : Quote} {token : String} {segment : Segment}
  {segments : List Segment}

section Parts

theorem splitAt_append (h : stop ∉ cs) : splitAt stop (cs ++ stop :: rest) = (cs, rest) := by
  induction cs
  case nil => simp [splitAt]
  case cons c cs hi =>
    rw [List.mem_cons, not_or] at h
    rw [List.cons_append, splitAt, if_neg (Ne.symm h.1), hi h.2]

theorem bracket_bare (h : ']' ∉ cs) (hq : ∀ q : Quote, cs.head? ≠ some q.char) :
    bracket (cs ++ ']' :: rest) = (cs, rest) := by
  cases cs
  case nil => rfl
  case cons c cs =>
    have hc : ¬(c = '"' ∨ c = '\'') := by
      rintro (rfl | rfl)
      · exact hq .double rfl
      · exact hq .single rfl
    rw [List.cons_append, bracket, if_neg hc]
    exact splitAt_append h

theorem bracket_quoted (h : q.char ∉ cs) : bracket (q.char :: (cs ++ q.char :: ']' :: rest)) = (cs, rest) := by
  have hq : q.char = '"' ∨ q.char = '\'' := by cases q <;> decide
  rw [bracket, if_pos hq, splitAt_append h]
  rfl

theorem flush_reverse (h : token ≠ "") : flush token.toList.reverse = [token] := by simp [flush, h]

theorem tokensFrom_dot : tokensFrom current ('.' :: rest) = flush current ++ tokensFrom [] rest := by rw [tokensFrom]

theorem tokensFrom_bracket : tokensFrom current ('[' :: rest) =
    flush current ++ String.ofList (bracket rest).1 :: tokensFrom [] (bracket rest).2 := by
  rw [tokensFrom]

theorem tokensFrom_name (h : '.' ∉ cs ∧ '[' ∉ cs) :
    tokensFrom current (cs ++ rest) = tokensFrom (cs.reverse ++ current) rest := by
  induction cs generalizing current
  case nil => rfl
  case cons c cs hi =>
    simp only [List.mem_cons, not_or] at h
    obtain ⟨⟨hd, h⟩, hb, h'⟩ := h
    rw [List.cons_append, tokensFrom.eq_4 _ _ _ (Ne.symm hd) (Ne.symm hb), hi ⟨h, h'⟩, List.reverse_cons,
      List.append_assoc, List.singleton_append]

end Parts

section Segments

-- Whether a name that has been read so far ends before the rest.
def EndsName (rest : List Char) : Prop := ∀ c ∈ rest.head?, c = '.' ∨ c = '['

theorem tokensFrom_of_endsName (h : EndsName rest) : tokensFrom current rest = flush current ++ tokensFrom [] rest := by
  cases rest
  case nil => simp [tokensFrom, flush]
  case cons c rest =>
    rcases h c rfl with rfl | rfl
    case inl => rw [tokensFrom_dot, tokensFrom_dot, flush, flush, List.isEmpty_nil]; rfl
    case inr => rw [tokensFrom_bracket, tokensFrom_bracket]; rfl

-- What may follow a name is written with a dot or a bracket in front.
theorem endsName_written {dotted : Bool} {hn hp} (h : (Segment.name dotted token hn hp).Adjoins segment) :
    EndsName (segment.written ++ rest) := by
  intro c hc
  cases segment
  case name dotted' _ _ _ =>
    obtain rfl : dotted' = true := h
    exact .inl (Option.some.inj hc).symm
  case bare => exact .inr (Option.some.inj hc).symm
  case quoted => exact .inr (Option.some.inj hc).symm

-- The token of a segment is read to the end of it, if a name does end there.
theorem tokensFrom_segment (h : ∀ s ∈ segments.head?, segment.Adjoins s) :
    tokensFrom [] (segment.written ++ segments.flatMap Segment.written) =
      segment.token :: tokensFrom [] (segments.flatMap Segment.written) := by
  cases hs : segment
  case name dotted token hn hp =>
    have hend : EndsName (segments.flatMap Segment.written) := by
      cases segments
      case nil => exact nofun
      case cons s segments => exact endsName_written (hs ▸ h s rfl)
    have hread : tokensFrom [] (token.toList ++ segments.flatMap Segment.written) =
        token :: tokensFrom [] (segments.flatMap Segment.written) := by
      rw [tokensFrom_name hp, List.append_nil, tokensFrom_of_endsName hend, flush_reverse hn, List.singleton_append]
    cases dotted
    case false => exact hread
    case true => exact tokensFrom_dot.trans hread
  case bare token hc hu =>
    have hb : bracket (token.toList ++ ']' :: segments.flatMap Segment.written) =
        (token.toList, segments.flatMap Segment.written) := bracket_bare hc hu
    simp only [Segment.written, Segment.token, List.cons_append, List.append_assoc, List.nil_append]
    rw [tokensFrom_bracket, hb, String.ofList_toList]
    rfl
  case quoted q token hc =>
    have hb : bracket (q.char :: (token.toList ++ q.char :: ']' :: segments.flatMap Segment.written)) =
        (token.toList, segments.flatMap Segment.written) := bracket_quoted hc
    simp only [Segment.written, Segment.token, List.cons_append, List.append_assoc, List.nil_append]
    rw [tokensFrom_bracket, hb, String.ofList_toList]
    rfl

end Segments

-- The tokens of a path are those of its segments, whatever forms these have, as long as two names have a dot between them.
theorem parse_ofSegments (h : segments.IsChain Segment.Adjoins) : parse (ofSegments segments) = segments.map Segment.token := by
  rw [parse, ofSegments, String.toList_ofList]
  induction segments
  case nil => simp [tokensFrom, flush]
  case cons segment segments hi =>
    rw [List.isChain_cons] at h
    rw [List.flatMap_cons, tokensFrom_segment h.1, hi h.2, List.map_cons]

-- A name, two tokens in brackets, one of them empty, a name without a dot behind them, and a name with one.
def mixedSegments : List Segment := [
  .name false "a" (by decide) (by decide),
  .bare "" (by decide) (by simp),
  .quoted .double "it's.[0]" (by decide),
  .name false "b]" (by decide) (by decide),
  .name true "c" (by decide) (by decide),
  .quoted .single "" (by decide)]

theorem parse_ofSegments_mixed : mixedSegments.IsChain Segment.Adjoins ∧
    ofSegments mixedSegments = "a[][\"it's.[0]\"]b].c['']" ∧
    parse "a[][\"it's.[0]\"]b].c['']" = ["a", "", "it's.[0]", "b]", "c", ""] := by
  have hc : mixedSegments.IsChain Segment.Adjoins := by simp [mixedSegments, Segment.Adjoins]
  have hw : ofSegments mixedSegments = "a[][\"it's.[0]\"]b].c['']" := by decide
  exact ⟨hc, hw, hw ▸ parse_ofSegments hc⟩

end ObjectPath

end FormModel
