import FormModel.Pattern

/-!
The room that a pattern takes.  A plain pattern is matched by an automaton over the bytes of UTF-8, once
forwards and once backwards, in which a part that is counted stands as many times as its count allows.
Patterns whose automaton is too big are refused.
-/

namespace FormModel

/-- Sizes in bytes of the automata of a pattern, or of a part of one. -/
structure Extent where
  forward : Nat
  backward : Nat
  deriving DecidableEq, Repr

namespace Extent

/-- The same number of bytes in both automata. -/
def both (n : Nat) : Extent := ⟨n, n⟩

/-- The size of two parts together. -/
def add (a b : Extent) : Extent := ⟨a.forward + b.forward, a.backward + b.backward⟩

/-- The size of a part that stands `n` times. -/
def times (n : Nat) (a : Extent) : Extent := ⟨n * a.forward, n * a.backward⟩

/-- The size of a state. -/
def state : Nat := 32

/-- The size of a step to another state that reading a byte takes. -/
def step : Nat := 8

/-- The size of a state with two ways on that read nothing. -/
def fork : Extent := both (state + 8)

/-- A range of bytes for each byte of a character. -/
abbrev ByteRanges := List (Nat × Nat)

/-- The bytes of a code point. -/
def bytesOf (n : Nat) : List Nat :=
  if n < 0x80 then [n]
  else if n < 0x800 then [0xC0 + n / 64, 0x80 + n % 64]
  else if n < 0x10000 then [0xE0 + n / 4096, 0x80 + n / 64 % 64, 0x80 + n % 64]
  else [0xF0 + n / 262144, 0x80 + n / 4096 % 64, 0x80 + n / 64 % 64, 0x80 + n % 64]

/-- Where a range of code points has to be parted for the bytes of its members to be those of a row of ranges:
before the code point returned.  Parts do not reach over the surrogates, their members have bytes of one
number, and behind the first byte that differs all bytes occur that can follow. -/
def partingPoint? (first last : Nat) : Option Nat :=
  if first ≤ 0xD7FF ∧ 0xE000 ≤ last then some 0xE000
  else
    match [0x80, 0x800, 0x10000].find? fun n => first < n && n ≤ last with
    | some n => some n
    | none =>
      if last < 0x80 then none
      else
        [64, 4096, 262144].findSome? fun block =>
          if first / block = last / block then none
          else if first % block ≠ 0 then some ((first / block + 1) * block)
          else if last % block ≠ block - 1 then some (last / block * block)
          else none

/-- The ranges of bytes of the code points from `first` to `last`. -/
def byteRanges : Nat → Nat → Nat → List ByteRanges
  | 0, _, _ => []
  | fuel + 1, first, last =>
    match partingPoint? first last with
    | some n =>
      let before := if first ≤ 0xD7FF ∧ n = 0xE000 then 0xD7FF else n - 1
      byteRanges fuel first before ++ byteRanges fuel n last
    | none => [(bytesOf first).zip (bytesOf last)]

/-- A state as its ranges of bytes, each with the number of the state that follows. -/
abbrev ForwardState := List (Nat × Nat × Nat)

/-- The number of the first state of the smallest automaton that reads just the rows of ranges, and the
states, the last first, with those known before.  The state at which it ends is not listed. -/
def forwardStates : Nat → List ForwardState → List ByteRanges → Nat × List ForwardState
  | 0, known, _ => (0, known)
  | fuel + 1, known, rows =>
    if rows.all List.isEmpty then (0, known)
    else
      let (steps, known) := (rows.splitBy fun a b => a.head? == b.head?).foldl
        (fun (steps, known) group =>
          let (next, known) := forwardStates fuel known (group.map List.tail)
          match group.head?.bind List.head? with
          | some (first, last) => (steps ++ [(first, last, next)], known)
          | none => (steps, known))
        ([], known)
      match known.idxOf? steps with
      | some i => (known.length - i, known)
      | none => (known.length + 1, steps :: known)

/-- How many ranges of a row are not shared with the row before, which begins alike. -/
def unshared (before row : ByteRanges) : Nat :=
  row.length - ((row.zip before).takeWhile fun (a, b) => a == b).length

/-- The size of a set of characters, given as ranges of code points.  Backwards, rows of ranges share only
what they have in common on the far side, and one state leads to all of them. -/
def ofRanges (ranges : List (Nat × Nat)) : Extent :=
  match ranges with
  | [(first, last)] => if first = last then both ((bytesOf first).length * state) else many [(first, last)]
  | ranges => many ranges
where
  /-- The size of a set of more or less than one character. -/
  many (ranges : List (Nat × Nat)) : Extent :=
    if ranges.all fun (_, last) => last < 0x80 then both (2 * state + ranges.length * step)
    else
      let rows := ranges.flatMap fun (first, last) => byteRanges 64 first last
      let states := (forwardStates 5 [] rows).2
      let shared := ((([] : ByteRanges) :: rows).zip rows).map fun (before, row) => unshared before row
      { forward := states.foldl (fun size steps => size + state + steps.length * step) state
        backward := shared.foldl (· + ·) 2 * state + 4 * rows.length }

end Extent

namespace CharSet

/-- The code points below `n` that satisfy a condition, as ranges before those of `above`. -/
def rangesBelow (p : Nat → Bool) : Nat → List (Nat × Nat) → List (Nat × Nat)
  | 0, above => above
  | n + 1, above =>
    rangesBelow p n <|
      if p n then
        match above with
        | (first, last) :: rest => if first = n + 1 then (n, last) :: rest else (n, n) :: above
        | [] => [(n, n)]
      else above

/-- The code points of a set as ranges. -/
def codePoints (s : CharSet) : List (Nat × Nat) :=
  match s with
  | none => []
  | range first last => if first ≤ last then [(first.toNat, last.toNat)] else []
  | s => rangesBelow (fun n => n.isValidChar && s.contains (Char.ofNat n)) 0x110000 []

/-- No less than what the characters that differ from those of a set only in case add to its size.  Of ASCII,
only two letters have such beyond ASCII. -/
def variantsBound : CharSet → Nat
  | none => 0
  | range first last =>
    let count := last.toNat + 1 - first.toNat
    if last.toNat < 0x80 then 40 * count + 400 else min (500 * count) 120000
  | union a b => a.variantsBound + b.variantsBound
  | anyCase _ => 0
  | _ => 120000

/-- No less than the size of the automata of a set, found without looking at each character. -/
def extentBound : CharSet → Nat
  | none => 64
  | range first last => if last.toNat < 0x80 then (if first = last then 32 else 72) else 3000
  | property _ => 70000
  | union a b => a.extentBound + b.extentBound
  | inter a b => a.extentBound + b.extentBound
  | diff a b => a.extentBound + b.extentBound
  | symmDiff a b => a.extentBound + b.extentBound
  | compl a => a.extentBound + 3000
  | anyCase a => a.extentBound + a.variantsBound

end CharSet

namespace Pattern

/-- Whether every match takes a character. -/
def takesCharacter : Pattern → Bool
  | chars _ => true
  | seq a b => a.takesCharacter || b.takesCharacter
  | alt a b => a.takesCharacter && b.takesCharacter
  | rep p least _ _ => least != 0 && p.takesCharacter
  | group _ p => p.takesCharacter
  | atomic p => p.takesCharacter
  | _ => false

/-- Whether some match may take a character. -/
def mayTakeCharacter : Pattern → Bool
  | empty => false
  | assertion _ => false
  | seq a b => a.mayTakeCharacter || b.mayTakeCharacter
  | alt a b => a.mayTakeCharacter || b.mayTakeCharacter
  | rep p least extra _ => p.mayTakeCharacter && !(least == 0 && extra == some 0)
  | group _ p => p.mayTakeCharacter
  | _ => true

/-- The set that alternatives of one character each are joined in. -/
def joined? : Pattern → Option CharSet
  | chars s => some s
  | alt a b => do return .union (← a.joined?) (← b.joined?)
  | _ => none

/-- The size of a part with a count.  What takes no characters is not repeated. -/
def countedExtent (p : Pattern) (e : Extent) (least : Nat) (extra : Option Nat) : Extent :=
  let (least, extra) :=
    if p.mayTakeCharacter then (least, extra)
    else (min least 1, some (if least = 0 ∧ extra ≠ some 0 then 1 else 0))
  match extra with
  | some n =>
    if least = 0 ∧ n = 0 then .both Extent.state
    else if n = 0 then e.times least
    else if least = 0 ∧ n = 1 then (e.add .fork).add (.both Extent.state)
    else
      ((e.times least).add ((e.add .fork).times n)).add
        (.both (if least = 0 then 2 * Extent.state else Extent.state))
  | none =>
    if least = 0 ∧ !p.takesCharacter then (e.add (Extent.fork.times 2)).add (.both Extent.state)
    else (e.times (max least 1)).add .fork

/-- The size of the automata of a plain pattern, where `size` is that of a set of characters; `among` tells
whether it is one of some alternatives, to each of which a way leads from one state. -/
def extent (size : CharSet → Extent) (among : Bool) : Pattern → Extent
  | empty => alone (.both Extent.state)
  | chars s => alone (size s)
  | assertion _ => alone (.both Extent.state)
  | seq a b => alone ((a.extent size false).add (b.extent size false))
  | alt a b =>
    match a.joined?, b.joined? with
    | some s, some t => alone (size (.union s t))
    | _, _ =>
      ((a.extent size true).add (b.extent size true)).add (.both (if among then 0 else 2 * Extent.state))
  | rep p least extra _ => alone (countedExtent p (p.extent size false) least extra)
  | group _ p => alone ((p.extent size false).add ⟨2 * Extent.state, 0⟩)
  | _ => .both 0
where
  /-- The size of what is no row of alternatives itself. -/
  alone (e : Extent) : Extent := if among then e.add (.both 4) else e

/-- The sets of characters in a pattern, each once. -/
def charSets : Pattern → List CharSet → List CharSet
  | chars s, found => if found.contains s then found else s :: found
  | seq a b, found => b.charSets (a.charSets found)
  | alt a b, found =>
    match a.joined?, b.joined? with
    | some s, some t => if found.contains (.union s t) then found else .union s t :: found
    | _, _ => b.charSets (a.charSets found)
  | rep p _ _ _, found => p.charSets found
  | group _ p, found => p.charSets found
  | _, found => found

/-- The room that the automata of a pattern may take. -/
def maxExtent : Nat := 10 * 0x100000

/-- The states around a pattern: those that find its first place, and the last. -/
def frame : Extent := ⟨208, 144⟩

/-- Whether a pattern is not plain, or its automata are small enough.  Only where that is in doubt are the
sets of characters looked at one by one. -/
def fits (p : Pattern) : Bool :=
  let within (e : Extent) : Bool := (e.add frame).forward ≤ maxExtent && (e.add frame).backward ≤ maxExtent
  !p.isPlain || within (p.extent (fun s => .both s.extentBound) false) ||
    (let sizes := (p.charSets []).map fun s => (s, Extent.ofRanges s.codePoints)
     within (p.extent (fun s => (sizes.lookup s).getD (.both 0)) false))

end Pattern

end FormModel
