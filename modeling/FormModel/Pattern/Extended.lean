import FormModel.Pattern.Backtracking
import FormModel.Pattern.Reader

/-!
The extended dialect of patterns, which has look around, back references, atomic groups, conditions and
comments: how far a pattern has been read, and its comments, references, escapes and classes.
-/

namespace FormModel.Pattern

/-- How far an extended pattern has been read. -/
structure ExtendedReading where
  rest : List Char
  flags : Flags
  /-- How many groups have been opened. -/
  groups : Nat
  /-- The groups with a name, latest first. -/
  names : List (String × Nat)
  /-- The groups that are referred to. -/
  references : List Nat
  /-- Whether a group has been referred to by its number alone. -/
  byNumber : Bool

/-- What is being skipped before the next part. -/
inductive Skipping where
  | blanks
  /-- A comment up to the end of its line. -/
  | line
  /-- A comment up to a closing parenthesis. -/
  | parenthesis
  /-- Such a comment, right after a backslash. -/
  | escaped
  deriving DecidableEq, Repr

/-- Drops comments in parentheses and, in verbose patterns, blanks and the other comments; `none` if a
comment is not closed. -/
def skipComments? (verbose : Bool) : Skipping → List Char → Option (List Char)
  | .blanks, [] => some []
  | .line, [] => some []
  | _, [] => none
  | .line, c :: rest => skipComments? verbose (if c = '\n' then .blanks else .line) rest
  | .escaped, _ :: rest => skipComments? verbose .parenthesis rest
  | .parenthesis, c :: rest =>
    skipComments? verbose (if c = ')' then .blanks else if c = '\\' then .escaped else .parenthesis) rest
  | .blanks, '(' :: '?' :: '#' :: rest => skipComments? verbose .parenthesis rest
  | .blanks, c :: rest =>
    if verbose ∧ c = '#' then skipComments? verbose .line rest
    else if verbose ∧ (c = ' ' ∨ c = '\t' ∨ c = '\n' ∨ c = '\r') then skipComments? verbose .blanks rest
    else some (c :: rest)

/-- Drops what has no meaning at the front. -/
def ExtendedReading.skip? (r : ExtendedReading) : Option ExtendedReading := do
  return { r with rest := ← skipComments? r.flags.verbose .blanks r.rest }

/-- Drops a closing parenthesis. -/
def ExtendedReading.close? (r : ExtendedReading) : Option ExtendedReading := do
  let r ← r.skip?
  match r.rest with
  | ')' :: rest => return { r with rest }
  | _ => none

/-- What stands at one place of a pattern, and whether a count may follow. -/
structure Atom where
  pattern : Pattern
  countable : Bool

/-- Nothing, which is not counted. -/
def Atom.nothing : Atom := ⟨.empty, false⟩

/-- A pattern that takes characters. -/
def Atom.of (p : Pattern) : Atom := ⟨p, true⟩

/-- A condition on the position. -/
def Atom.condition (p : Pattern) : Atom := ⟨p, false⟩

/-- Whether a character may stand in the name of a group. -/
def isNameChar (c : Char) : Bool := c == '_' || Unicode.isAlphanumeric c

/-- A name up to a character that closes it. -/
def nameUpTo? (close : Char) (cs : List Char) : Option (List Char × List Char) :=
  let name := cs.takeWhile isNameChar
  match cs.dropWhile isNameChar with
  | c :: rest => if c = close ∧ !name.isEmpty then some (name, rest) else none
  | [] => none

/-- The number at the front, if it has no more than 64 bits. -/
def decimal? (cs : List Char) : Option (Nat × List Char) :=
  let digits := cs.takeWhile Char.isDigit
  if digits.isEmpty || 0x10000000000000000 ≤ decimalValue digits then none
  else some (decimalValue digits, cs.dropWhile Char.isDigit)

/-- The group that a name stands for: the latest with that name, or the one with that number. -/
def ExtendedReading.groupOf? (r : ExtendedReading) (name : List Char) : Option Nat :=
  r.names.lookup (String.ofList name) <|> (if name.all Char.isDigit then some (decimalValue name) else none)

/-- A reference to a group by name up to a character that closes it; after a minus, the groups are counted
backwards from here. -/
def reference? (r : ExtendedReading) (close : Char) (cs : List Char) : Option (Nat × ExtendedReading) :=
  match cs with
  | '-' :: cs => do
    let (n, rest) ← decimal? cs
    match rest with
    | c :: rest =>
      if c = close ∧ 1 ≤ n ∧ n ≤ r.groups then return (r.groups + 1 - n, { r with rest }) else none
    | [] => none
  | cs => do
    let (name, rest) ← nameUpTo? close cs
    return (← r.groupOf? name, { r with rest })

/-- A reference to a group by its number alone. -/
def numbered? (r : ExtendedReading) (cs : List Char) : Option (Nat × ExtendedReading) := do
  let (n, rest) ← decimal? cs
  return (n, { r with rest, byNumber := true })

/-- A reference, which is noted. -/
def ExtendedReading.refer (r : ExtendedReading) (index : Nat) : ExtendedReading :=
  { r with references := index :: r.references }

/-- A code point in hexadecimal: with a fixed number of digits, or with up to eight in braces. -/
def shortHex? (digits : Nat) (cs : List Char) : Option (Char × List Char) :=
  match cs.take digits with
  | '{' :: _ => do
    let (name, rest) ← upToChar '}' (cs.drop 1)
    if 8 < name.length then none else return (← charOf? (← hexValue? name), rest)
  | name => do
    if name.length < digits then none else return (← charOf? (← hexValue? name), cs.drop digits)

/-- The blanks of `\s` where classes are narrow. -/
def narrowBlank : CharSet :=
  CharSet.ranges [(' ', ' '), ('\t', '\r'), ('\u00a0', '\u00a0'), ('\ufeff', '\ufeff'), ('\u2003', '\u2003'),
    ('\u2029', '\u2029')]

/-- The classes of one letter; a capital stands for the complement.  Narrow classes mean little more than
ASCII. -/
def wideOrNarrow? (narrow : Bool) (c : Char) : Option CharSet :=
  let set? : Option CharSet := match c.toLower with
    | 'd' => some (if narrow then .asciiDigit else .property .digit)
    | 's' => some (if narrow then narrowBlank else .blank)
    | 'w' => some (if narrow then .asciiWord else .property .wordChar)
    | 'h' => some .hexDigit
    | _ => none
  set?.map (·.negateIf c.isUpper)

/-- The character that an escape stands for, in a class and outside. -/
def escapedChar? (inClass : Bool) (c : Char) (rest : List Char) : Option (Char × List Char) :=
  match hexDigits? c, controlLetter? c with
  | some digits, _ => shortHex? digits rest
  | none, some control => some (control, rest)
  | none, none =>
    if c = 'e' then some ('\x1B', rest)
    else if inClass ∧ c = 'b' then some ('\x08', rest)
    else if c.isAlpha then (if inClass ∧ c ∈ ['k', 'A', 'z', 'B', 'K', 'G'] then some (c, rest) else none)
    else if c.isDigit then none
    else some (c, rest)

/-- The set of a named property, behind a backslash and `p` or `P`. -/
def propertySet? (flags : Flags) (negated : Bool) (cs : List Char) : Option (CharSet × List Char) := do
  let (set, differs, rest) ← property? false cs
  return ((set.anyCaseIf flags.ignoreCase).negateIf (differs != negated), rest)

/-- The blanks before the end, which the very end is among: the condition of `\Z`. -/
def beforeLastNewlines : Pattern :=
  .ahead false (.seq (.rep (.chars (.single '\n')) 0 none true) (.assertion .textEnd))

/-- What follows a backslash outside of classes. -/
def extendedEscape? (narrow : Bool) (r : ExtendedReading) (cs : List Char) :
    Option (Atom × ExtendedReading) :=
  match cs with
  | [] => none
  | c :: rest =>
    let here (atom : Atom) : Option (Atom × ExtendedReading) := some (atom, { r with rest })
    if c.isDigit then do
      let (index, r) ← numbered? r cs
      return (.of (.backref index), r.refer index)
    else if c = 'k' then do
      let (index, r) ← match rest with
        | '<' :: rest => reference? r '>' rest
        | '\'' :: rest => reference? r '\'' rest
        | _ => none
      return (.of (.backref index), r.refer index)
    else if c = 'A' then here (.condition (.assertion .textStart))
    else if c = 'z' then here (.condition (.assertion .textEnd))
    else if c = 'Z' then here (.condition beforeLastNewlines)
    else if c = 'b' ∨ c = 'B' then do
      let after ← skipComments? r.flags.verbose .blanks rest
      if after.head? = some '{' then none
      else here (.condition (.assertion (if c = 'b' then .wordBoundary false else .noWordBoundary false)))
    else if c = '<' then here (.condition (.assertion (.wordStart false)))
    else if c = '>' then here (.condition (.assertion (.wordEnd false)))
    else if c = 'K' then here (.of .empty)
    else if c = 'G' then here (.of (.assertion .textStart))
    else if c = 'p' ∨ c = 'P' then do
      let (set, rest) ← propertySet? r.flags (c == 'P') rest
      return (.of (.chars set), { r with rest })
    else
      match wideOrNarrow? narrow c with
      | some set => here (.of (.chars set))
      | none => do
        let (c, rest) ← escapedChar? false c rest
        return (.of (literal r.flags c), { r with rest })

/-- A character as a member of a plain class. -/
def memberText (c : Char) : List Char :=
  if c ∈ "\\.+*?()|[]\x7b\x7d^$#&-~".toList then ['\\', c] else [c]

/-- What follows a backslash in a class, as plain text. -/
def escapedMember? (narrow : Bool) (cs : List Char) : Option (List Char × List Char) :=
  match cs with
  | [] => none
  | c :: rest =>
    if c = 'p' ∨ c = 'P' then
      match rest with
      | [] => none
      | '{' :: rest => (upToChar '}' rest).map fun (name, rest) => ('\\' :: c :: '{' :: name ++ ['}'], rest)
      | first :: rest => some (['\\', c, first], rest)
    else if c = 'h' then some ("[0-9A-Fa-f]".toList, rest)
    else if c = 'H' then some ("[^0-9A-Fa-f]".toList, rest)
    else if c ∈ ['d', 's', 'w', 'D', 'S', 'W'] then
      let negation := if c.isUpper then "^" else ""
      let text := match narrow, c.toLower with
        | false, _ => String.ofList ['\\', c]
        | true, 'd' => "[" ++ negation ++ "0-9]"
        | true, 's' => "[" ++ negation ++ " \t\n\r\u000b\u000c\u00a0\ufeff\u2003\u2029]"
        | true, _ => "[" ++ negation ++ "A-Za-z0-9_]"
      some (text.toList, rest)
    else (escapedChar? true c rest).map fun (c, rest) => (memberText c, rest)

/-- The text of a plain class up to its closing bracket; `inner` counts the brackets within that are
not closed yet. -/
def classText? (narrow : Bool) : Nat → Nat → List Char → Option (List Char × List Char)
  | 0, _, _ => none
  | _, _, [] => none
  | fuel + 1, inner, c :: rest =>
    if c = ']' ∧ inner = 0 then some ([']'], rest)
    else do
      let (text, rest) ← if c = '\\' then escapedMember? narrow rest else some ([c], rest)
      let inner := if c = '[' then inner + 1 else if c = ']' then inner - 1 else inner
      let (more, rest) ← classText? narrow fuel inner rest
      return (text ++ more, rest)

/-- A class after its opening bracket: the plain class whose text it stands for. -/
def extendedClass? (narrow : Bool) (flags : Flags) (cs : List Char) : Option (CharSet × List Char) := do
  let (negation, cs) : List Char × List Char := match cs with
    | '^' :: rest => (['^'], rest)
    | cs => ([], cs)
  let (bracket, cs) : List Char × List Char := match cs with
    | ']' :: rest => ([']'], rest)
    | cs => ([], cs)
  let (text, rest) ← classText? narrow (cs.length + 1) 0 cs
  let text := negation ++ bracket ++ text
  match ← classBody? { Flags.plain with ignoreCase := flags.ignoreCase } (2 * text.length + 2) text with
  | (part, []) => return (part.set, rest)
  | _ => none

end FormModel.Pattern
