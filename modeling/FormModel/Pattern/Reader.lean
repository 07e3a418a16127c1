import FormModel.Pattern.Class
import FormModel.Pattern.Extent

/-!
Reading patterns of the plain dialect, in which every pattern can be matched without taking back a choice.
-/

namespace FormModel.Pattern

/-- How far a pattern has been read. -/
structure Reading where
  rest : List Char
  flags : Flags
  /-- How many groups have been opened. -/
  groups : Nat
  /-- The groups with a name. -/
  names : List (String × Nat)

/-- A part of a pattern. -/
structure Part where
  pattern : Pattern
  /-- How deep groups, counts, sequences, alternatives and classes are nested in it. -/
  depth : Nat
  /-- Whether a count may follow. -/
  countable : Bool

/-- A part in which nothing is nested. -/
def Part.simple (p : Pattern) : Part := ⟨p, 0, true⟩

/-- A row of parts or alternatives; several are one level more. -/
def Part.row (build : List Pattern → Pattern) (parts : List Part) : Part where
  pattern := build (parts.map (·.pattern))
  depth := (parts.map (·.depth)).foldl max 0 + (if parts.length < 2 then 0 else 1)
  countable := true

/-- The flag of a letter, set or cleared. -/
def Flags.change? (f : Flags) (on : Bool) : Char → Option Flags
  | 'i' => some { f with ignoreCase := on }
  | 'm' => some { f with multiLine := on }
  | 's' => some { f with dotAll := on }
  | 'U' => some { f with swapGreed := on }
  | 'R' => some { f with crlf := on }
  | 'x' => some { f with verbose := on }
  | 'u' => some { f with ascii := !on }
  | _ => none

/-- The letters of flags up to a colon or a closing parenthesis, which is the character returned. -/
def flagLetters? (cs : List Char) : Option (List Char × Char × List Char) :=
  match cs with
  | [] => none
  | c :: rest =>
    if c = ':' ∨ c = ')' then some ([], c, rest)
    else (flagLetters? rest).map fun (letters, stop, rest) => (c :: letters, stop, rest)

/-- The flags that letters set, and clear after a minus.  No letter comes twice. -/
def Flags.apply? (f : Flags) (letters : List Char) : Option Flags :=
  let on := letters.takeWhile (· ≠ '-')
  let off := (letters.dropWhile (· ≠ '-')).tail
  let hasMinus := letters.contains '-'
  if (hasMinus && off.isEmpty) || !(on ++ off).Nodup then none
  else do
    let f ← on.foldlM (fun f c => f.change? true c) f
    off.foldlM (fun f c => f.change? false c) f

/-- Whether a name may be given to a group. -/
def isGroupName (name : List Char) : Bool :=
  match name with
  | [] => false
  | c :: rest =>
    (c == '_' || Unicode.isAlphabetic c) &&
      rest.all fun c => c == '_' || c == '.' || c == '[' || c == ']' || Unicode.isAlphanumeric c

/-- A count: the least number and the greatest, if there is one. -/
structure Count where
  least : Nat
  most : Option Nat

/-- Whether the numbers of a count have 32 bits and stand in order. -/
def Count.isSound (c : Count) : Bool :=
  c.least < 0x100000000 &&
    match c.most with
    | none => true
    | some n => n < 0x100000000 && c.least ≤ n

/-- A pattern a number of times. -/
def counted (p : Pattern) (count : Count) (greedy : Bool) : Pattern :=
  rep p count.least (count.most.map (· - count.least)) greedy

/-- The value of decimal digits. -/
def decimalValue (digits : List Char) : Nat := digits.foldl (fun n c => n * 10 + (c.toNat - 48)) 0

/-- The decimal digits at the front, without the blanks and comments of verbose patterns between them, and
what follows those. -/
def spacedDigits (verbose : Bool) (cs : List Char) : List Char × List Char := go false cs
where
  /-- `comment` tells whether a comment is being read. -/
  go (comment : Bool) : List Char → List Char × List Char
    | [] => ([], [])
    | c :: rest =>
      if comment then go (c ≠ '\n') rest
      else if verbose && isBlank c then go false rest
      else if verbose && c = '#' then go true rest
      else if c.isDigit then
        let (digits, after) := go false rest
        (c :: digits, after)
      else ([], c :: rest)

/-- The number at the front, with blanks around it. -/
def spacedNumber? (verbose : Bool) (cs : List Char) : Option (Nat × List Char) :=
  let (digits, rest) := spacedDigits verbose (cs.dropWhile isBlank)
  if digits.isEmpty then none else some (decimalValue digits, skipVerbose verbose (rest.dropWhile isBlank))

/-- A count after its opening brace. -/
def count? (verbose : Bool) (cs : List Char) : Option (Count × List Char) := do
  let (least, rest) ← spacedNumber? verbose (skipVerbose verbose cs)
  match rest with
  | '}' :: rest => return (⟨least, least⟩, rest)
  | ',' :: rest =>
    match skipVerbose verbose rest with
    | '}' :: rest => return (⟨least, none⟩, rest)
    | rest => do
      let (most, rest) ← spacedNumber? verbose rest
      match rest with
      | '}' :: rest => return (⟨least, most⟩, rest)
      | _ => none
  | _ => none

/-- The last part with a count; a question mark behind it swaps whether it goes on as long as it can. -/
def countLast? (r : Reading) (parts : List Part) (count : Count) (rest : List Char) :
    Option (List Part × Reading) :=
  match parts with
  | [] => none
  | last :: before =>
    if !last.countable || !count.isSound then none
    else
      let (lazy, rest) := match rest with
        | '?' :: rest => (true, rest)
        | rest => (false, rest)
      let part : Part := ⟨counted last.pattern count (lazy == r.flags.swapGreed), last.depth + 1, true⟩
      some (part :: before, { r with rest })

/-- What a caret, a dot and a dollar sign stand for; a dot is not confined to ASCII. -/
def symbol? (flags : Flags) : Char → Option (Option Pattern)
  | '.' =>
    some (if flags.ascii then none
      else some (chars (if flags.dotAll then .all
        else if flags.crlf then .compl (.union (.single '\n') (.single '\r'))
        else .compl (.single '\n'))))
  | '^' =>
    some (some (assertion (if !flags.multiLine then .textStart
      else if flags.crlf then .crlfLineStart else .lineStart)))
  | '$' =>
    some (some (assertion (if !flags.multiLine then .textEnd
      else if flags.crlf then .crlfLineEnd else .lineEnd)))
  | _ => none

/-- One character that stands for itself. -/
def literal (flags : Flags) (c : Char) : Pattern :=
  chars (if flags.ascii ∧ 128 ≤ c.toNat then .single c else anyCaseIn flags (.single c))

/-- What an escape outside of classes stands for. -/
def ofEscape (flags : Flags) : Escape → Pattern
  | .literal c => literal flags c
  | .set s => chars s
  | .assertion a => assertion a

/-- Why a text is no pattern of the plain dialect. -/
inductive Refusal where
  /-- It looks around, as patterns of the extended dialect may. -/
  | lookAround
  | other
  deriving DecidableEq, Repr

/-- A part that could be read. -/
def orRefuse {α : Type} (read : Option α) : Except Refusal α :=
  match read with
  | some a => .ok a
  | none => .error .other

/-- What an opening parenthesis begins. -/
inductive Opening where
  /-- A group, with a number if its text is kept. -/
  | group (index : Option Nat)
  /-- Flags for the rest of the group around. -/
  | flags

/-- Opens a group under a name that no other group has. -/
def openNamed? (r : Reading) (cs : List Char) : Option (Opening × Reading) := do
  let (name, rest) ← upToChar '>' cs
  let known := String.ofList name
  let index := r.groups + 1
  if !isGroupName name || (r.names.lookup known).isSome then none
  else return (.group (some index), { r with rest, groups := index, names := (known, index) :: r.names })

/-- The flags or the group that a question mark behind an opening parenthesis announces. -/
def openFlags? (r : Reading) (cs : List Char) : Option (Opening × Reading) := do
  let (letters, stop, rest) ← flagLetters? cs
  let flags ← r.flags.apply? letters
  if stop = ':' then return (.group none, { r with rest, flags })
  else if letters.isEmpty then none
  else return (.flags, { r with rest, flags })

/-- Reads what stands right behind an opening parenthesis. -/
def opening (r : Reading) (cs : List Char) : Except Refusal (Opening × Reading) :=
  match cs with
  | '?' :: '=' :: _ => .error .lookAround
  | '?' :: '!' :: _ => .error .lookAround
  | '?' :: '<' :: '=' :: _ => .error .lookAround
  | '?' :: '<' :: '!' :: _ => .error .lookAround
  | '?' :: '<' :: rest => orRefuse (openNamed? r rest)
  | '?' :: 'P' :: '<' :: rest => orRefuse (openNamed? r rest)
  | '?' :: rest => orRefuse (openFlags? r rest)
  | rest => .ok (.group (some (r.groups + 1)), { r with rest, groups := r.groups + 1 })

mutual
/-- Alternatives between bars, up to the end or to a closing parenthesis; those already read are given last
first. -/
def alternatives : Nat → List Part → Reading → Except Refusal (Part × Reading)
  | 0, _, _ => .error .other
  | fuel + 1, before, r => do
    let (part, r) ← partsOf fuel [] r
    match r.rest with
    | '|' :: rest => alternatives fuel (part :: before) { r with rest }
    | _ => return (.row alts (part :: before).reverse, r)

/-- The parts of one alternative; those already read are given last first. -/
def partsOf : Nat → List Part → Reading → Except Refusal (Part × Reading)
  | 0, _, _ => .error .other
  | fuel + 1, parts, r => do
    match skipVerbose r.flags.verbose r.rest with
    | [] => return (.row seqs parts.reverse, { r with rest := [] })
    | c :: rest =>
      if c = '|' ∨ c = ')' then return (.row seqs parts.reverse, { r with rest := c :: rest })
      else if c = '*' then do
        let (parts, r) ← orRefuse (countLast? r parts ⟨0, none⟩ rest)
        partsOf fuel parts r
      else if c = '+' then do
        let (parts, r) ← orRefuse (countLast? r parts ⟨1, none⟩ rest)
        partsOf fuel parts r
      else if c = '?' then do
        let (parts, r) ← orRefuse (countLast? r parts ⟨0, some 1⟩ rest)
        partsOf fuel parts r
      else if c = '{' then do
        let (count, rest) ← orRefuse (count? r.flags.verbose rest)
        let (parts, r) ← orRefuse (countLast? r parts count (skipVerbose r.flags.verbose rest))
        partsOf fuel parts r
      else if c = '[' then do
        let (part, rest) ← orRefuse (classBody? r.flags (2 * rest.length + 2) rest)
        partsOf fuel (⟨chars part.set, part.depth, true⟩ :: parts) { r with rest }
      else if c = '\\' then do
        let (e, rest) ← orRefuse (escape? r.flags rest)
        partsOf fuel (.simple (ofEscape r.flags e) :: parts) { r with rest }
      else if c = '(' then do
        let (part, r) ← parenthesis fuel r (skipVerbose r.flags.verbose rest)
        partsOf fuel (part :: parts) r
      else
        match symbol? r.flags c with
        | some p => partsOf fuel (.simple (← orRefuse p) :: parts) { r with rest }
        | none => partsOf fuel (.simple (literal r.flags c) :: parts) { r with rest }

/-- What stands in parentheses, after the opening one.  Flags set inside end with it. -/
def parenthesis : Nat → Reading → List Char → Except Refusal (Part × Reading)
  | 0, _, _ => .error .other
  | fuel + 1, r, cs => do
    let outer := r.flags
    let (opening, r) ← opening r cs
    match opening with
    | .flags => return (⟨.empty, 0, false⟩, r)
    | .group index => do
      let (part, r) ← alternatives fuel [] r
      let pattern := match index with
        | some index => group index part.pattern
        | none => part.pattern
      match r.rest with
      | ')' :: rest => return (⟨pattern, part.depth + 1, true⟩, { r with rest, flags := outer })
      | _ => .error .other
end

/-- How deep a pattern may be nested. -/
def maxDepth : Nat := 250

/-- Reads a text as a pattern of the plain dialect. -/
def read (source : String) : Except Refusal Pattern := do
  let cs := source.toList
  let (part, r) ← alternatives (3 * cs.length + 3) [] ⟨cs, .plain, 0, []⟩
  if r.rest.isEmpty && part.depth ≤ maxDepth then return part.pattern else throw .other

/-- The pattern of a text in the plain dialect. -/
def parse? (source : String) : Option Pattern := (read source).toOption.filter fits

end FormModel.Pattern
