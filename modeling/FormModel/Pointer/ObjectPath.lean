import FormModel.Pointer

/-!
Object paths, the other way to write tokens: names between dots, and brackets around an index or a
name in quotes, as in `a.b[0]['c d']`.
-/

namespace FormModel.ObjectPath

/-- The text up to the first `stop`, which is dropped, and what follows it. -/
def splitAt (stop : Char) : List Char → List Char × List Char
  | [] => ([], [])
  | c :: rest =>
    if c = stop then ([], rest)
    else
      let (before, after) := splitAt stop rest
      (c :: before, after)

theorem length_splitAt (stop : Char) (cs : List Char) : (splitAt stop cs).2.length ≤ cs.length := by
  induction cs with
  | nil => simp [splitAt]
  | cons c rest ih =>
    simp only [splitAt]
    split
    · simp
    · simp only [List.length_cons]; omega

/-- The token in brackets and what follows them.  A quote runs to the next quote of its kind, and what
stands between that and the closing bracket is skipped. -/
def bracket (cs : List Char) : List Char × List Char :=
  match cs with
  | c :: rest =>
    if c = '"' ∨ c = '\'' then
      let (token, rest) := splitAt c rest
      (token, (splitAt ']' rest).2)
    else splitAt ']' (c :: rest)
  | [] => ([], [])

theorem length_bracket (cs : List Char) : (bracket cs).2.length ≤ cs.length := by
  cases cs with
  | nil => simp [bracket]
  | cons c rest =>
    simp only [bracket]
    split
    · have h₁ := length_splitAt c rest
      have h₂ := length_splitAt ']' (splitAt c rest).2
      simp only [List.length_cons]
      omega
    · exact length_splitAt _ _

/-- The name read so far, given in reverse, as a token unless it is empty. -/
def flush (current : List Char) : Tokens :=
  if current.isEmpty then [] else [String.ofList current.reverse]

/-- The tokens of a text; `current` is the name read so far, in reverse. -/
def tokensFrom (current : List Char) (cs : List Char) : Tokens :=
  match cs with
  | [] => flush current
  | '.' :: rest => flush current ++ tokensFrom [] rest
  | '[' :: rest => flush current ++ String.ofList (bracket rest).1 :: tokensFrom [] (bracket rest).2
  | c :: rest => tokensFrom (c :: current) rest
termination_by cs.length
decreasing_by
  all_goals simp only [List.length_cons]
  all_goals have := length_bracket rest
  all_goals omega

/-- The tokens of an object path. -/
def parse (path : String) : Tokens := tokensFrom [] path.toList

end FormModel.ObjectPath
