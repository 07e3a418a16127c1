import FormModel.Pattern

/-!
Matching patterns with back references, look around and atomic parts.  The ways to match are listed in
the order in which they are tried, each with the texts of the groups on the way.
-/

namespace FormModel.Pattern

/-- A position in the text and the first and last positions of the groups met so far, latest first. -/
structure Progress where
  position : Nat
  groups : List (Nat × Nat × Nat)
  deriving DecidableEq, Repr

/-- The members of a list, each at its first place. -/
def firsts (l : List Progress) : List Progress :=
  (l.foldl (fun seen s => if seen.contains s then seen else s :: seen) []).reverse

/-- Follows steps that get ahead, any number of them: `seen` has been followed, `found` is the order of
all stops so far. -/
def explore (step : Progress → List Progress) (greedy : Bool) :
    Nat → List Progress × List Progress → Progress → List Progress × List Progress
  | 0, (seen, found), s => (s :: seen, found ++ [s])
  | fuel + 1, (seen, found), s =>
    if seen.contains s then (seen, found)
    else
      let next := (step s).filter fun t => s.position < t.position
      if greedy then
        let (seen, found) := next.foldl (explore step greedy fuel) (s :: seen, found)
        (seen, found ++ [s])
      else next.foldl (explore step greedy fuel) (s :: seen, found ++ [s])

/-- Up to `n` steps that get ahead. -/
def upTo (step : Progress → List Progress) (greedy : Bool) : Nat → Progress → List Progress
  | 0, s => [s]
  | n + 1, s =>
    let more := ((step s).filter fun t => s.position < t.position).flatMap (upTo step greedy n)
    firsts (if greedy then more ++ [s] else s :: more)

/-- Exactly `n` steps. -/
def times (step : Progress → List Progress) : Nat → Progress → List Progress
  | 0, s => [s]
  | n + 1, s => firsts ((step s).flatMap (times step n))

/-- Whether the text of a stretch stands again at a position. -/
def repeatsAt (text : Array Char) (first last i : Nat) : Bool :=
  let stretch := (text.extract first last).toList
  stretch == (text.extract i (i + stretch.length)).toList

/-- The ways to match from one place on, in the order in which they are tried. -/
def ways (text : Array Char) : Pattern → Progress → List Progress
  | empty, s => [s]
  | chars cs, s =>
    match text[s.position]? with
    | some c => if cs.contains c then [{ s with position := s.position + 1 }] else []
    | none => []
  | assertion a, s => if a.holds text s.position then [s] else []
  | seq a b, s => firsts ((ways text a s).flatMap (ways text b))
  | alt a b, s => firsts (ways text a s ++ ways text b s)
  | rep p least extra greedy, s =>
    let start := times (ways text p) (min least (text.size + 1)) s
    match extra with
    | none => firsts (start.flatMap fun s => (explore (ways text p) greedy (text.size + 1) ([], []) s).2)
    | some n => firsts (start.flatMap (upTo (ways text p) greedy (min n (text.size + 1))))
  | group index p, s =>
    (ways text p s).map fun t => { t with groups := (index, s.position, t.position) :: t.groups }
  | backref index, s =>
    match s.groups.find? (·.1 == index) with
    | some (_, first, last) =>
      if repeatsAt text first last s.position then [{ s with position := s.position + (last - first) }] else []
    | none => []
  | ahead negated p, s =>
    match ways text p s with
    | [] => if negated then [s] else []
    | t :: _ => if negated then [] else [{ s with groups := t.groups }]
  | behind negated width p, s =>
    if s.position < width then (if negated then [s] else [])
    else
      match ways text p { s with position := s.position - width } with
      | [] => if negated then [s] else []
      | t :: _ => if negated then [] else [{ s with groups := t.groups }]
  | atomic p, s => (ways text p s).take 1
  | matched index, s => if s.groups.any (·.1 == index) then [s] else []
  | choose condition yes no, s =>
    match ways text condition s with
    | t :: _ => ways text yes t
    | [] => ways text no s

/-- Whether the pattern matches somewhere in the text. -/
def isMatch (p : Pattern) (s : String) : Bool :=
  let text := s.toList.toArray
  if p.isPlain then p.occursIn text
  else (List.range (text.size + 1)).any fun i => !(p.ways text ⟨i, []⟩).isEmpty

end FormModel.Pattern
