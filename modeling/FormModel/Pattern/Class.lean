import FormModel.Pattern
import FormModel.Pattern.PropertyName

/-!
Reading the parts of a pattern that stand for one character: escapes, named properties, and classes in
brackets.  Classes may be nested and combined by `&&`, `--` and `~~`.
-/

namespace FormModel.Pattern

/-- The modes set by `(?imsUx)` and the like. -/
structure Flags where
  ignoreCase : Bool
  multiLine : Bool
  dotAll : Bool
  swapGreed : Bool
  crlf : Bool
  verbose : Bool
  /-- Whether only ASCII has letters, digits, blanks and case. -/
  ascii : Bool
  deriving DecidableEq, Repr

/-- No mode is set at first. -/
def Flags.plain : Flags := ⟨false, false, false, false, false, false, false⟩

/-- Drops blanks and comments where a pattern is written verbosely. -/
def skipVerbose (verbose : Bool) (cs : List Char) : List Char :=
  if verbose then go false cs else cs
where
  /-- `comment` tells whether a comment is being read. -/
  go (comment : Bool) : List Char → List Char
    | [] => []
    | c :: rest =>
      if comment then go (c ≠ '\n') rest
      else if isBlank c then go false rest
      else if c = '#' then go true rest
      else c :: rest

/-- The text up to a character, which is dropped, and what follows it; `none` if it does not come. -/
def upToChar (stop : Char) : List Char → Option (List Char × List Char)
  | [] => none
  | c :: rest =>
    if c = stop then some ([], rest)
    else (upToChar stop rest).map fun (before, after) => (c :: before, after)

/-- The text up to a closing brace, without the blanks and comments of verbose patterns, and what follows
it. -/
def upToBrace (verbose : Bool) (cs : List Char) : Option (List Char × List Char) := go false cs
where
  /-- `comment` tells whether a comment is being read. -/
  go (comment : Bool) : List Char → Option (List Char × List Char)
    | [] => none
    | c :: rest =>
      if comment then go (c ≠ '\n') rest
      else if verbose && isBlank c then go false rest
      else if verbose && c = '#' then go true rest
      else if c = '}' then some ([], rest)
      else (go false rest).map fun (before, after) => (c :: before, after)

/-- The next `n` characters, without the blanks and comments of verbose patterns, and what follows them. -/
def nextChars (verbose : Bool) (n : Nat) (cs : List Char) : Option (List Char × List Char) := go n false cs
where
  /-- `comment` tells whether a comment is being read. -/
  go (n : Nat) (comment : Bool) : List Char → Option (List Char × List Char)
    | [] => if n = 0 then some ([], []) else none
    | c :: rest =>
      if n = 0 then some ([], c :: rest)
      else if comment then go n (c ≠ '\n') rest
      else if verbose && isBlank c then go n false rest
      else if verbose && c = '#' then go n true rest
      else (go (n - 1) false rest).map fun (before, after) => (c :: before, after)

/-- The value of hexadecimal digits. -/
def hexValue? (cs : List Char) : Option Nat :=
  if cs.isEmpty then none
  else cs.foldlM (fun n c =>
    let digit :=
      if '0' ≤ c ∧ c ≤ '9' then some (c.toNat - 48)
      else if 'a' ≤ c ∧ c ≤ 'f' then some (c.toNat - 87)
      else if 'A' ≤ c ∧ c ≤ 'F' then some (c.toNat - 55)
      else none
    digit.map (n * 16 + ·)) 0

/-- The character of a code point. -/
def charOf? (n : Nat) : Option Char := if n.isValidChar then some (Char.ofNat n) else none

/-- A code point in hexadecimal: in braces, or with a fixed number of digits.  In ASCII alone, two digits
stand for a byte, which is no character beyond ASCII. -/
def hexChar? (flags : Flags) (digits : Nat) (cs : List Char) : Option (Char × List Char) :=
  match skipVerbose flags.verbose cs with
  | '{' :: rest => do
    let (name, rest) ← upToBrace flags.verbose rest
    return (← charOf? (← hexValue? name), rest)
  | cs => do
    let (name, rest) ← nextChars flags.verbose digits cs
    let c ← charOf? (← hexValue? name)
    if flags.ascii ∧ digits = 2 ∧ 128 ≤ c.toNat then none else return (c, rest)

/-- The text around a mark of inequality. -/
def aroundUnequal : List Char → Option (List Char × List Char)
  | [] => none
  | '!' :: '=' :: rest => some ([], rest)
  | c :: rest => (aroundUnequal rest).map fun (before, after) => (c :: before, after)

/-- Splits the name of a property from its value; the flag tells whether they are said to differ. -/
def splitProperty (name : List Char) : Option (List Char × List Char × Bool) :=
  match aroundUnequal name with
  | some (before, after) => some (before, after, true)
  | none => (upToChar ':' name <|> upToChar '=' name).map fun (before, after) => (before, after, false)

/-- The set of a property after `\p`, which is one letter or a name in braces, and whether it is the
characters outside of that set that are meant. -/
def property? (verbose : Bool) (cs : List Char) : Option (CharSet × Bool × List Char) :=
  match skipVerbose verbose cs with
  | [] => none
  | '{' :: rest => do
    let (name, rest) ← upToBrace verbose rest
    match splitProperty name with
    | some (name, value, differs) => return (← CharSet.valued? name value, differs, rest)
    | none => return (← CharSet.named? name, false, rest)
  | c :: rest => if c = '\\' then none else (CharSet.named? [c]).map fun set => (set, false, rest)

/-- Closed under case if case is ignored; in ASCII alone, if that is all there is. -/
def anyCaseIn (flags : Flags) (a : CharSet) : CharSet :=
  if flags.ascii then (if flags.ignoreCase then .inter (.anyCase a) .ascii else a)
  else a.anyCaseIf flags.ignoreCase

/-- The complement if `negated`, which reaches beyond ASCII. -/
def negateIn? (flags : Flags) (negated : Bool) (a : CharSet) : Option CharSet :=
  if negated && flags.ascii then none else some (a.negateIf negated)

/-- The classes of one letter; a capital stands for the complement. -/
def letterClass? (flags : Flags) (c : Char) : Option CharSet :=
  match c.toLower with
  | 'd' => negateIn? flags c.isUpper (if flags.ascii then .asciiDigit else .property .digit)
  | 's' => negateIn? flags c.isUpper (if flags.ascii then .asciiBlank else .blank)
  | 'w' => negateIn? flags c.isUpper (if flags.ascii then .asciiWord else .property .wordChar)
  | _ => none

/-- The control characters that are written with a letter. -/
def controlLetter? : Char → Option Char
  | 'a' => some '\x07'
  | 'f' => some '\x0C'
  | 'n' => some '\n'
  | 'r' => some '\r'
  | 't' => some '\t'
  | 'v' => some '\x0B'
  | _ => none

/-- How many hexadecimal digits follow a letter that announces them. -/
def hexDigits? : Char → Option Nat
  | 'x' => some 2
  | 'u' => some 4
  | 'U' => some 8
  | _ => none

/-- What an escape stands for. -/
inductive Escape where
  | literal (c : Char)
  | set (s : CharSet)
  | assertion (a : Assertion)

/-- The word boundary that `\b` with a name in braces stands for; a brace that no name follows is no part of
the escape. -/
def boundary? (flags : Flags) (cs : List Char) : Option (Assertion × List Char) :=
  match cs with
  | '{' :: rest =>
    match skipVerbose flags.verbose rest with
    | [] => none
    | c :: _ =>
      if c.isAlpha || c == '-' then do
        let (name, rest) ← upToBrace flags.verbose rest
        match String.ofList name with
        | "start" => return (.wordStart flags.ascii, rest)
        | "end" => return (.wordEnd flags.ascii, rest)
        | "start-half" => return (.wordStartHalf flags.ascii, rest)
        | "end-half" => return (.wordEndHalf flags.ascii, rest)
        | _ => none
      else some (.wordBoundary flags.ascii, cs)
  | cs => some (.wordBoundary flags.ascii, cs)

/-- What follows a backslash. -/
def escape? (flags : Flags) (cs : List Char) : Option (Escape × List Char) :=
  match cs with
  | [] => none
  | c :: rest =>
    match hexDigits? c, letterClass? flags c, controlLetter? c with
    | some digits, _, _ => do
      let (c, rest) ← hexChar? flags digits rest
      return (.literal c, rest)
    | none, some set, _ => some (.set set, rest)
    | none, none, some control => some (.literal control, rest)
    | none, none, none =>
      if c = 'p' ∨ c = 'P' then do
        let (set, differs, rest) ← property? flags.verbose rest
        if flags.ascii then none
        else return (.set ((anyCaseIn flags set).negateIf (differs != (c == 'P'))), rest)
      else if c = 'A' then some (.assertion .textStart, rest)
      else if c = 'z' then some (.assertion .textEnd, rest)
      else if c = 'b' then (boundary? flags rest).map fun (a, rest) => (.assertion a, rest)
      else if c = 'B' then some (.assertion (.noWordBoundary flags.ascii), rest)
      else if c = '<' then some (.assertion (.wordStart flags.ascii), rest)
      else if c = '>' then some (.assertion (.wordEnd flags.ascii), rest)
      else if c.isAlphanum ∨ 128 ≤ c.toNat then none
      else some (.literal c, rest)

/-- How two parts of a class are combined. -/
inductive ClassOperator where
  | inter
  | diff
  | symmDiff
  deriving DecidableEq, Repr

/-- The set of a class that has been read, and how deep it is nested. -/
structure ClassPart where
  set : CharSet
  depth : Nat

/-- The left part of a class with the operator behind it. -/
abbrev ClassLeft := Option (ClassOperator × ClassPart)

/-- The union of the members of a class, the last first; several are one level more. -/
def unionPart (flags : Flags) (items : List ClassPart) : ClassPart where
  set := anyCaseIn flags (CharSet.unions (items.map (·.set)))
  depth := (items.map (·.depth)).foldl max 0 + (if items.length < 2 then 0 else 1)

/-- The part of a class that has been read up to an operator or to its end. -/
def combine (left : ClassLeft) (right : ClassPart) : ClassPart :=
  match left with
  | none => right
  | some (operator, a) =>
    let set : CharSet := match operator with
      | .inter => .inter a.set right.set
      | .diff => .diff a.set right.set
      | .symmDiff => .symmDiff a.set right.set
    ⟨set, max a.depth right.depth + 1⟩

/-- A class named between colons, as `[:alpha:]`, without the bracket and colon before it; `none` within if
it may not be used here. -/
def posixClass? (flags : Flags) (cs : List Char) : Option (Option CharSet × List Char) := do
  let (negated, cs) := match cs with
    | '^' :: rest => (true, rest)
    | cs => (false, cs)
  let (name, rest) ← upToChar ':' cs
  match rest with
  | ']' :: rest => do
    let set ← CharSet.posix? (String.ofList name)
    return (negateIn? flags negated (anyCaseIn flags set), rest)
  | _ => none

/-- One member of a class: a character, or a set written as an escape.  In ASCII alone there is no other
character. -/
def classMember? (flags : Flags) (cs : List Char) : Option ((Char ⊕ CharSet) × List Char) := do
  let (member, rest) ← match cs with
    | [] => none
    | '\\' :: rest =>
      match ← escape? flags rest with
      | (.literal c, rest) => some (Sum.inl c, rest)
      | (.set s, rest) => some (Sum.inr s, rest)
      | (.assertion _, _) => none
    | c :: rest => some (Sum.inl c, rest)
  match member with
  | .inl c => if flags.ascii ∧ 128 ≤ c.toNat then none else return (member, rest)
  | .inr _ => return (member, rest)

/-- What stands behind a dash in a class: in a verbose pattern, behind the blanks and one mark of a comment
too. -/
def behindDash (verbose : Bool) (cs : List Char) : Option Char :=
  if verbose then
    match cs.dropWhile isBlank with
    | '#' :: rest => (rest.dropWhile isBlank).head?
    | cs => cs.head?
  else cs.head?

/-- A member of a class, or a range between two.  A dash before a closing bracket or another dash begins no
range. -/
def classRange? (flags : Flags) (cs : List Char) : Option (CharSet × List Char) := do
  let (first, rest) ← classMember? flags cs
  let alone : CharSet := match first with
    | .inl c => .single c
    | .inr s => s
  match skipVerbose flags.verbose rest with
  | [] => none
  | '-' :: rest =>
    if [some ']', some '-'].contains (behindDash flags.verbose rest) then return (alone, '-' :: rest)
    else do
      let (last, rest) ← classMember? flags (skipVerbose flags.verbose rest)
      match first, last with
      | .inl a, .inl b => if a ≤ b then return (.range a b, rest) else none
      | _, _ => none
  | rest => return (alone, rest)

/-- The dashes at the front of a class, which stand for themselves, and what follows them. -/
def leadingDashes (verbose : Bool) (cs : List Char) : Nat × List Char := go 0 false cs
where
  /-- Counts dashes; `comment` tells whether a comment is being read. -/
  go (n : Nat) (comment : Bool) : List Char → Nat × List Char
    | [] => (n, [])
    | c :: rest =>
      if comment then go n (c ≠ '\n') rest
      else if verbose && isBlank c then go n false rest
      else if verbose && c = '#' then go n true rest
      else if c = '-' then go (n + 1) false rest
      else (n, c :: rest)

mutual
/-- A class after its opening bracket. -/
def classBody? (flags : Flags) : Nat → List Char → Option (ClassPart × List Char)
  | 0, _ => none
  | fuel + 1, cs => do
    let (negated, cs) := match skipVerbose flags.verbose cs with
      | '^' :: rest => (true, rest)
      | cs => (false, cs)
    let (dashes, cs) := leadingDashes flags.verbose cs
    let (items, cs) : List ClassPart × List Char := match dashes, cs with
      | 0, ']' :: rest => ([⟨.single ']', 0⟩], rest)
      | n, cs => (List.replicate n ⟨.single '-', 0⟩, cs)
    let (part, rest) ← classItems? flags fuel none items cs
    return (⟨← negateIn? flags negated (anyCaseIn flags part.set), part.depth + 1⟩, rest)

/-- The members of a class up to its closing bracket. -/
def classItems? (flags : Flags) : Nat → ClassLeft → List ClassPart → List Char →
    Option (ClassPart × List Char)
  | 0, _, _, _ => none
  | fuel + 1, left, items, cs =>
    let part := combine left (unionPart flags items)
    match skipVerbose flags.verbose cs with
    | [] => none
    | ']' :: rest => some (part, rest)
    | '&' :: '&' :: rest => classItems? flags fuel (some (.inter, part)) [] rest
    | '-' :: '-' :: rest => classItems? flags fuel (some (.diff, part)) [] rest
    | '~' :: '~' :: rest => classItems? flags fuel (some (.symmDiff, part)) [] rest
    | '[' :: rest => do
      let named := match rest with
        | ':' :: rest => posixClass? flags rest
        | _ => none
      match named with
      | some (set, rest) => classItems? flags fuel left (⟨← set, 0⟩ :: items) rest
      | none => do
        let (inner, rest) ← classBody? flags fuel rest
        classItems? flags fuel left (inner :: items) rest
    | cs => do
      let (set, rest) ← classRange? flags cs
      classItems? flags fuel left (⟨set, 0⟩ :: items) rest
end

end FormModel.Pattern
