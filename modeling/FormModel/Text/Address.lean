import FormModel.Decimal.Reading

/-!
Internet addresses as text: four decimal numbers between points, and up to eight groups of hexadecimal
digits between colons.
-/

namespace FormModel.InternetAddress

/-- The value of a hexadecimal digit. -/
def isHexDigit (c : Char) : Bool :=
  c.isDigit || ('a' ≤ c && c ≤ 'f') || ('A' ≤ c && c ≤ 'F')

/-- A number up to 255 without leading zeros. -/
def octet? (cs : List Char) : Option (List Char) :=
  let digits := cs.takeWhile Char.isDigit
  if digits.isEmpty || 3 < digits.length || (1 < digits.length && digits.head? == some '0') then none
  else
    let n := digits.foldl (fun n c => n * 10 + (c.toNat - '0'.toNat)) 0
    if n ≤ 255 then some (cs.drop digits.length) else none

/-- One given character. -/
def char? (c : Char) : List Char → Option (List Char)
  | [] => none
  | d :: rest => if d = c then some rest else none

/-- Four octets. -/
def quad? (cs : List Char) : Option (List Char) := do
  let rest ← octet? cs
  let rest ← octet? (← char? '.' rest)
  let rest ← octet? (← char? '.' rest)
  octet? (← char? '.' rest)

/-- One to four hexadecimal digits. -/
def group? (cs : List Char) : Option (List Char) :=
  let digits := cs.takeWhile isHexDigit
  if digits.isEmpty || 4 < digits.length then none else some (cs.drop digits.length)

/-- What comes behind a colon, which only the first of the groups has not. -/
def separated (first : Bool) (read : List Char → Option (List Char)) (cs : List Char) :
    Option (List Char) :=
  if first then read cs else (char? ':' cs).bind read

/-- Up to `room` groups: how many there are, whether the last two are written as four octets, and what
follows them. -/
def groups (first : Bool) (cs : List Char) : (room : Nat) → Nat × Bool × List Char
  | 0 => (0, false, cs)
  | room + 1 =>
    match if 0 < room then separated first quad? cs else none with
    | some rest => (2, true, rest)
    | none =>
      match separated first group? cs with
      | none => (0, false, cs)
      | some rest =>
        let (n, quad, rest) := groups false rest room
        (n + 1, quad, rest)

end FormModel.InternetAddress

namespace FormModel

open InternetAddress

/-- An address of four octets. -/
def isIpv4 (s : String) : Bool := quad? s.toList == some []

/-- An address of eight groups, of which the last two may be written as four octets and one stretch of
zeros as two colons. -/
def isIpv6 (s : String) : Bool :=
  let (head, headQuad, rest) := groups true s.toList 8
  if head = 8 then rest.isEmpty
  else if headQuad then false
  else
    match rest with
    | ':' :: ':' :: rest =>
      let (_, _, rest) := groups true rest (7 - head)
      rest.isEmpty
    | _ => false

end FormModel
