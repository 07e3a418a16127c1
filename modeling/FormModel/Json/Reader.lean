import FormModel.Json

/-!
Reading JSON text.  The grammar is the strict one: one value with blanks around it, no comments, no
trailing commas, no lone surrogates and no raw control characters.  A value nested deeper than a limit
is refused.  A member that comes twice keeps its first place and its last value.
-/

namespace FormModel

namespace Number

/-- `f * 10 ^ exponent`, with one rounding for each power of ten that is multiplied or divided in;
`none` if the result is too large. -/
def scale (f : Float) (exponent : Int) : Option Float :=
  if 0 ≤ exponent then
    if f == 0 then some f
    else if exponent ≤ 308 then
      let scaled := f * Float.ofScientific 1 false exponent.toNat
      if scaled.isFinite then some scaled else none
    else none
  else if -308 ≤ exponent then some (f / Float.ofScientific 1 false exponent.natAbs)
  else if f == 0 then some f
  else scale (f / Float.ofScientific 1 false 308) (exponent + 308)
termination_by exponent.natAbs
decreasing_by omega

/-- The digits of a number that are kept: as many as fit 64 bits. -/
structure Significand where
  value : Nat
  /-- The power of ten of the last digit kept. -/
  exponent : Int
  /-- Whether a digit has been left out. -/
  full : Bool

/-- Digits before the point: once one is left out, so are those behind it. -/
def Significand.whole (s : Significand) (digit : Nat) : Significand :=
  if s.full || 0x10000000000000000 ≤ s.value * 10 + digit then ⟨s.value, s.exponent + 1, true⟩
  else ⟨s.value * 10 + digit, s.exponent, false⟩

/-- Digits after the point. -/
def Significand.fraction (s : Significand) (digit : Nat) : Significand :=
  if s.full || 0x10000000000000000 ≤ s.value * 10 + digit then ⟨s.value, s.exponent, true⟩
  else ⟨s.value * 10 + digit, s.exponent - 1, false⟩

/-- The significand of digits before and after the point. -/
def Significand.ofDigits (whole fraction : List Nat) : Significand :=
  let before := whole.foldl Significand.whole ⟨0, 0, false⟩
  fraction.foldl Significand.fraction { before with full := false }

end Number

namespace Json.Reader

/-- The value of a decimal digit. -/
def digit? (c : Char) : Option Nat :=
  if '0' ≤ c ∧ c ≤ '9' then some (c.toNat - '0'.toNat) else none

/-- The digits at the front and what follows them. -/
def digits : List Char → List Nat × List Char
  | [] => ([], [])
  | c :: rest =>
    match digit? c with
    | none => ([], c :: rest)
    | some d => let (ds, rest) := digits rest; (d :: ds, rest)

/-- Digits as a number. -/
def natOfDigits (ds : List Nat) : Nat := ds.foldl (fun n d => n * 10 + d) 0

/-- The value of a hexadecimal digit. -/
def hexDigit? (c : Char) : Option Nat :=
  if '0' ≤ c ∧ c ≤ '9' then some (c.toNat - '0'.toNat)
  else if 'a' ≤ c ∧ c ≤ 'f' then some (c.toNat - 'a'.toNat + 10)
  else if 'A' ≤ c ∧ c ≤ 'F' then some (c.toNat - 'A'.toNat + 10)
  else none

/-- The value of four hexadecimal digits. -/
def hex4? (a b c d : Char) : Option Nat := do
  let a ← hexDigit? a
  let b ← hexDigit? b
  let c ← hexDigit? c
  let d ← hexDigit? d
  return ((a * 16 + b) * 16 + c) * 16 + d

/-- The text without blanks at its front. -/
def skipBlanks : List Char → List Char
  | [] => []
  | c :: rest => if c = ' ' ∨ c = '\n' ∨ c = '\t' ∨ c = '\r' then skipBlanks rest else c :: rest

/-- What a backslash and one letter stand for. -/
def escaped? : Char → Option Char
  | '"' => some '"'
  | '\\' => some '\\'
  | '/' => some '/'
  | 'b' => some (Char.ofNat 8)
  | 'f' => some (Char.ofNat 12)
  | 'n' => some '\n'
  | 'r' => some '\r'
  | 't' => some '\t'
  | _ => none

/-- A string after its first quote: the characters, those already read given in reverse. -/
def stringTail (acc : List Char) : List Char → Option (String × List Char)
  | [] => none
  | '"' :: rest => some (String.ofList acc.reverse, rest)
  | '\\' :: 'u' :: a :: b :: c :: d :: rest =>
    match hex4? a b c d with
    | none => none
    | some unit =>
      if unit < 0xD800 ∨ 0xE000 ≤ unit then stringTail (Char.ofNat unit :: acc) rest
      else if 0xDC00 ≤ unit then none
      else match rest with
        | '\\' :: 'u' :: a :: b :: c :: d :: rest =>
          match hex4? a b c d with
          | none => none
          | some low =>
            if 0xDC00 ≤ low ∧ low < 0xE000 then
              stringTail (Char.ofNat ((unit - 0xD800) * 0x400 + (low - 0xDC00) + 0x10000) :: acc) rest
            else none
        | _ => none
  | '\\' :: c :: rest =>
    match escaped? c with
    | none => none
    | some c => stringTail (c :: acc) rest
  | c :: rest => if c.toNat < 32 then none else stringTail (c :: acc) rest

/-- The exponent of a number, if one is written, and what follows it. -/
def exponent : List Char → Option (Option Int × List Char)
  | c :: rest =>
    if c = 'e' ∨ c = 'E' then
      let (negative, rest) := match rest with
        | '+' :: rest => (false, rest)
        | '-' :: rest => (true, rest)
        | _ => (false, rest)
      match digits rest with
      | ([], _) => none
      | (ds, rest) => some (some (if negative then -(natOfDigits ds : Int) else natOfDigits ds), rest)
    else some (none, c :: rest)
  | [] => some (none, [])

/-- The digits after the point, if there is one, and what follows them. -/
def fraction : List Char → Option (Option (List Nat) × List Char)
  | '.' :: rest =>
    match digits rest with
    | ([], _) => none
    | (ds, rest) => some (some ds, rest)
  | rest => some (none, rest)

/-- The value of the parts of a number.  Without point and exponent it is an integer if it has 64
bits; all else is a float, negative zero among it. -/
def assemble (negative : Bool) (whole : List Nat) (fraction : Option (List Nat)) (exponent : Option Int) :
    Option Json :=
  let n : Int := natOfDigits whole
  let signed : Int := if negative then -n else n
  let isInteger := fraction.isNone && exponent.isNone && !(negative && n == 0)
  if h : isInteger ∧ -0x8000000000000000 ≤ signed ∧ signed < 0x10000000000000000 then
    some (.num (.int signed h.2))
  else do
    let s := Number.Significand.ofDigits whole (fraction.getD [])
    let f ← Number.scale (Float.ofNat s.value) (s.exponent + exponent.getD 0)
    return ofFloat (if negative then -f else f)

/-- A number without its sign. -/
def unsigned (negative : Bool) (cs : List Char) : Option (Json × List Char) := do
  let (whole, rest) := digits cs
  match whole with
  | [] => none
  | 0 :: _ :: _ => none
  | _ =>
    let (fraction, rest) ← fraction rest
    let (exponent, rest) ← exponent rest
    let value ← assemble negative whole fraction exponent
    return (value, rest)

/-- A value without members: a word, a number or a string. -/
def scalar : List Char → Option (Json × List Char)
  | 'n' :: 'u' :: 'l' :: 'l' :: rest => some (.null, rest)
  | 't' :: 'r' :: 'u' :: 'e' :: rest => some (.bool true, rest)
  | 'f' :: 'a' :: 'l' :: 's' :: 'e' :: rest => some (.bool false, rest)
  | '"' :: rest => (stringTail [] rest).map fun (s, rest) => (.str s, rest)
  | '-' :: rest => unsigned true rest
  | rest => unsigned false rest

mutual
/-- A value nested at most `depth` deep and the text behind it. -/
def value (depth : Nat) : Nat → List Char → Option (Json × List Char)
  | 0, _ => none
  | fuel + 1, cs =>
    match skipBlanks cs with
    | '[' :: rest =>
      if depth = 0 then none
      else match skipBlanks rest with
        | ']' :: rest => some (.arr [], rest)
        | rest => items (depth - 1) [] fuel rest
    | '{' :: rest =>
      if depth = 0 then none
      else match skipBlanks rest with
        | '}' :: rest => some (.obj [], rest)
        | rest => members (depth - 1) [] fuel rest
    | rest => scalar rest

/-- The items of an array up to its end; those already read are given in reverse. -/
def items (depth : Nat) (acc : List Json) : Nat → List Char → Option (Json × List Char)
  | 0, _ => none
  | fuel + 1, cs =>
    match value depth fuel cs with
    | none => none
    | some (j, rest) =>
      match skipBlanks rest with
      | ',' :: rest => items depth (j :: acc) fuel rest
      | ']' :: rest => some (.arr (j :: acc).reverse, rest)
      | _ => none

/-- The members of an object up to its end, added to those already read. -/
def members (depth : Nat) (acc : Dict Json) : Nat → List Char → Option (Json × List Char)
  | 0, _ => none
  | fuel + 1, cs =>
    match skipBlanks cs with
    | '"' :: rest =>
      match stringTail [] rest with
      | none => none
      | some (key, rest) =>
        match skipBlanks rest with
        | ':' :: rest =>
          match value depth fuel rest with
          | none => none
          | some (j, rest) =>
            match skipBlanks rest with
            | ',' :: rest => members depth (acc.insert key j) fuel rest
            | '}' :: rest => some (.obj (acc.insert key j), rest)
            | _ => none
        | _ => none
    | _ => none
end

end Json.Reader

/-- The deepest nesting of arrays and objects that is read. -/
def Json.maxDepth : Nat := 127

/-- The value that a text holds, if it holds one value nested at most `depth` deep and nothing else. -/
def Json.parseWithin? (depth : Nat) (text : String) : Option Json :=
  let cs := text.toList
  match Json.Reader.value depth (2 * cs.length + 2) cs with
  | some (j, rest) => if Json.Reader.skipBlanks rest = [] then some j else none
  | none => none

/-- The value of a text under the usual limit of depth. -/
def Json.parse? (text : String) : Option Json := Json.parseWithin? maxDepth text

end FormModel
