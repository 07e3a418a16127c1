/-!
Percent-encoded text.  A percent sign with two hexadecimal digits stands for one byte of UTF-8; any
other percent sign stands for itself.
-/

namespace FormModel.Percent

/-- The value of a hexadecimal digit. -/
def hexDigit? (b : UInt8) : Option UInt8 :=
  if 48 ≤ b ∧ b ≤ 57 then some (b - 48)
  else if 65 ≤ b ∧ b ≤ 70 then some (b - 55)
  else if 97 ≤ b ∧ b ≤ 102 then some (b - 87)
  else none

/-- The bytes that percent-encoded bytes stand for. -/
def decodeBytes : List UInt8 → List UInt8
  | 37 :: a :: b :: rest =>
    match hexDigit? a, hexDigit? b with
    | some high, some low => (high * 16 + low) :: decodeBytes rest
    | _, _ => 37 :: decodeBytes (a :: b :: rest)
  | b :: rest => b :: decodeBytes rest
  | [] => []

/-- The text that a percent-encoded text stands for; a text that does not decode to UTF-8 stands for
itself. -/
def decode (s : String) : String :=
  let bytes := ByteArray.mk (decodeBytes s.toUTF8.toList).toArray
  (String.fromUTF8? bytes).getD s

end FormModel.Percent
