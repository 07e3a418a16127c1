import FormModel.Decimal.Binary
import FormModel.Text.Blank

/-!
Numbers written as text, as people type them: a sign, digits with a point on either side or among
them, an exponent.  The float nearest to what is written is the value.
-/

namespace FormModel

namespace Decimal

/-- The value of a decimal digit. -/
def digit? (c : Char) : Option Nat :=
  if '0' ≤ c ∧ c ≤ '9' then some (c.toNat - '0'.toNat) else none

/-- The digits at the front and what follows them. -/
def splitDigits : List Char → List Nat × List Char
  | [] => ([], [])
  | c :: rest =>
    match digit? c with
    | none => ([], c :: rest)
    | some d => let (ds, rest) := splitDigits rest; (d :: ds, rest)

/-- Digits as a number. -/
def natOfDigits (ds : List Nat) : Nat := ds.foldl (fun n d => n * 10 + d) 0

/-- The sign at the front, `true` for a minus, and what follows it. -/
def splitSign : List Char → Bool × List Char
  | '+' :: rest => (false, rest)
  | '-' :: rest => (true, rest)
  | rest => (false, rest)

/-- The float nearest to `digits * 10 ^ exponent`. -/
def nearestFloat (digits : Nat) (exponent : Int) : Float :=
  let size : Int := (Nat.toDigits 10 digits).length + exponent
  if digits = 0 ∨ size < -400 then 0
  else if 400 < size then 1 / 0
  else if 0 ≤ exponent then Float.ofScientific digits false exponent.toNat
  else Float.ofScientific digits true exponent.natAbs

/-- Lower case of the letters of ASCII. -/
def lowerAscii (cs : List Char) : List Char := cs.map Char.toLower

/-- The exponent that makes up the whole rest of a number; none written counts as zero. -/
def readExponent : List Char → Option Int
  | [] => some 0
  | c :: rest =>
    if c = 'e' ∨ c = 'E' then
      let (negative, rest) := splitSign rest
      match splitDigits rest with
      | ([], _) => none
      | (ds, []) => some (if negative then -(natOfDigits ds : Int) else natOfDigits ds)
      | _ => none
    else none

/-- A number without sign: digits before or after the point, or both, and an exponent. -/
def readUnsigned (cs : List Char) : Option Float := do
  let (whole, rest) := splitDigits cs
  let (fraction, rest) := match rest with
    | '.' :: rest => splitDigits rest
    | _ => ([], rest)
  if whole.isEmpty && fraction.isEmpty then none
  else
    let exponent ← readExponent rest
    return nearestFloat (natOfDigits (whole ++ fraction)) (exponent - fraction.length)

/-- A float written in decimal; the words for infinity and NaN are read in any case. -/
def readFloat? (cs : List Char) : Option Float :=
  let (negative, rest) := splitSign cs
  let word := String.ofList (lowerAscii rest)
  let size :=
    if word = "inf" ∨ word = "infinity" then some (1 / 0)
    else if word = "nan" then some (0 / 0)
    else readUnsigned rest
  size.map fun f => if negative then -f else f

/-- The finite number that a text holds between blanks. -/
def parse? (s : String) : Option Float :=
  (readFloat? (trimBlanks s.toList)).filter Float.isFinite

end Decimal

end FormModel
