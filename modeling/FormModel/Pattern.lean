import FormModel.Pattern.CharSet

/-!
Patterns, the regular expressions of schemas, and when they match.  `Pattern.reach` takes a plain pattern
from a set of positions in a text to the set of positions at which a match that starts at one of the first
may end; no choice is ever taken back, so it works in polynomial time.
-/

namespace FormModel

/-- A condition on a position that takes no characters.  Those on words are told whether only letters and
digits of ASCII make words. -/
inductive Assertion where
  | textStart
  | textEnd
  | lineStart
  | lineEnd
  | crlfLineStart
  | crlfLineEnd
  | wordBoundary (ascii : Bool)
  | noWordBoundary (ascii : Bool)
  | wordStart (ascii : Bool)
  | wordEnd (ascii : Bool)
  | wordStartHalf (ascii : Bool)
  | wordEndHalf (ascii : Bool)
  deriving DecidableEq, Repr

/-- A pattern. -/
inductive Pattern where
  | empty
  | chars (s : CharSet)
  | assertion (a : Assertion)
  | seq (a b : Pattern)
  | alt (a b : Pattern)
  /-- From `least` times to `least + extra` times, without upper bound for `none`; `greedy` ones try to go
  on before they try to stop. -/
  | rep (p : Pattern) (least : Nat) (extra : Option Nat) (greedy : Bool)
  /-- A group whose text can be referred to. -/
  | group (index : Nat) (p : Pattern)
  /-- The text of a group once more. -/
  | backref (index : Nat)
  /-- Whether `p` matches from here on. -/
  | ahead (negated : Bool) (p : Pattern)
  /-- Whether `p` matches the `width` characters before. -/
  | behind (negated : Bool) (width : Nat) (p : Pattern)
  /-- Only the first way to match `p`. -/
  | atomic (p : Pattern)
  /-- Whether a group has matched. -/
  | matched (index : Nat)
  /-- After the first way to match `condition`, `yes`; if there is none, `no`. -/
  | choose (condition yes no : Pattern)
  deriving DecidableEq, Repr

namespace Pattern

/-- The sequence of a list. -/
def seqs : List Pattern → Pattern
  | [] => empty
  | [p] => p
  | p :: rest => seq p (seqs rest)

/-- The alternatives of a list. -/
def alts : List Pattern → Pattern
  | [] => empty
  | [p] => p
  | p :: rest => alt p (alts rest)

/-- Whether a pattern has no back reference, no look around and no atomic part. -/
def isPlain : Pattern → Bool
  | empty => true
  | chars _ => true
  | assertion _ => true
  | seq a b => a.isPlain && b.isPlain
  | alt a b => a.isPlain && b.isPlain
  | rep p _ _ _ => p.isPlain
  | group _ p => p.isPlain
  | _ => false

/-- How many characters a match takes, if that is fixed. -/
def width? : Pattern → Option Nat
  | empty => some 0
  | chars _ => some 1
  | assertion _ => some 0
  | seq a b => do return (← a.width?) + (← b.width?)
  | alt a b => do
    let m ← a.width?
    let n ← b.width?
    if m = n then some m else none
  | rep p least extra _ => do
    let n ← p.width?
    if extra = some 0 then some (least * n) else none
  | group _ p => p.width?
  | backref _ => none
  | ahead _ _ => some 0
  | behind _ _ _ => some 0
  | atomic p => p.width?
  | matched _ => some 0
  | choose condition yes no => do
    let m ← condition.width?
    let n ← yes.width?
    if m + n = (← no.width?) then some (m + n) else none

end Pattern

/-- Whether the character at a position belongs to a word; positions outside of the text do not. -/
def isWordAt (ascii : Bool) (text : Array Char) (i : Nat) : Bool :=
  match text[i]? with
  | some c => Unicode.isWordChar c && (!ascii || c.toNat < 128)
  | none => false

/-- Whether the character before a position belongs to a word. -/
def isWordBefore (ascii : Bool) (text : Array Char) (i : Nat) : Bool := i != 0 && isWordAt ascii text (i - 1)

/-- The character before a position. -/
def charBefore? (text : Array Char) (i : Nat) : Option Char := if i = 0 then none else text[i - 1]?

/-- Whether an assertion is true of a position. -/
def Assertion.holds (text : Array Char) (i : Nat) : Assertion → Bool
  | textStart => i == 0
  | textEnd => i == text.size
  | lineStart => i == 0 || charBefore? text i == some '\n'
  | lineEnd => i == text.size || text[i]? == some '\n'
  | crlfLineStart =>
    i == 0 || charBefore? text i == some '\n' ||
      (charBefore? text i == some '\r' && text[i]? != some '\n')
  | crlfLineEnd =>
    i == text.size || text[i]? == some '\r' ||
      (text[i]? == some '\n' && charBefore? text i != some '\r')
  | wordBoundary ascii => isWordBefore ascii text i != isWordAt ascii text i
  | noWordBoundary ascii => isWordBefore ascii text i == isWordAt ascii text i
  | wordStart ascii => !isWordBefore ascii text i && isWordAt ascii text i
  | wordEnd ascii => isWordBefore ascii text i && !isWordAt ascii text i
  | wordStartHalf ascii => !isWordBefore ascii text i
  | wordEndHalf ascii => !isWordAt ascii text i

namespace Pattern

/-- The members of a list, each once. -/
def distinct (l : List Nat) : List Nat := l.foldl (fun seen i => if seen.contains i then seen else i :: seen) []

/-- A step taken a number of times. -/
def iterate (step : List Nat → List Nat) : Nat → List Nat → List Nat
  | 0, positions => positions
  | n + 1, positions => iterate step n (step positions)

/-- All that is reached by up to `n` steps: `seen` is what has been reached so far, and `latest` the part of
it from which the last step has not been followed up. -/
def closure (step : List Nat → List Nat) : Nat → List Nat → List Nat → List Nat
  | 0, seen, _ => seen
  | n + 1, seen, latest =>
    let next := (step latest).filter fun i => !seen.contains i
    if next.isEmpty then seen else closure step n (next ++ seen) next

/-- The ends of the matches that start at one of the positions.  More rounds than there are positions
reach nothing new, so counts are cut down to that. -/
def reach (text : Array Char) : Pattern → List Nat → List Nat
  | empty, positions => positions
  | chars s, positions =>
    positions.filterMap fun i =>
      match text[i]? with
      | some c => if s.contains c then some (i + 1) else none
      | none => none
  | assertion a, positions => positions.filter fun i => a.holds text i
  | seq a b, positions => reach text b (reach text a positions)
  | alt a b, positions => distinct (reach text a positions ++ reach text b positions)
  | rep p least extra _, positions =>
    let rounds := text.size + 1
    let start := iterate (reach text p) (min least rounds) positions
    let more := match extra with
      | none => rounds
      | some n => min n rounds
    closure (reach text p) more start start
  | group _ p, positions => reach text p positions
  | _, _ => []

/-- Whether a plain pattern matches somewhere in the text. -/
def occursIn (p : Pattern) (text : Array Char) : Bool :=
  !(p.reach text (List.range (text.size + 1))).isEmpty

end Pattern

end FormModel
