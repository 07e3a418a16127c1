import FormModel.Text.Percent

/-!
References in the form of the URI standard: with or without a scheme, and with at most one fragment.
-/

namespace FormModel.UriReference

/-- The characters that stand for themselves in a path. -/
def isPlain (c : Char) : Bool := c.isAlphanum || "-._~!$&'()*+,;=:@/?[]".toList.contains c

/-- Whether every character stands for itself or is written as a byte behind a percent sign. -/
def isBody : List Char → Bool
  | [] => true
  | '%' :: a :: b :: rest =>
    (Percent.hexDigit? a.toUInt8).isSome && (Percent.hexDigit? b.toUInt8).isSome && a.toNat < 128 &&
      b.toNat < 128 && isBody rest
  | c :: rest => isPlain c && isBody rest

/-- Whether a text is the name of a scheme. -/
def isScheme : List Char → Bool
  | [] => false
  | c :: rest => c.isAlpha && rest.all fun c => c.isAlphanum || c == '+' || c == '-' || c == '.'

/-- Whether a colon in the first part of a path follows a scheme. -/
def hasSoundStart (cs : List Char) : Bool :=
  let first := cs.takeWhile fun c => c ≠ '/' && c ≠ '?'
  !first.contains ':' || isScheme (first.takeWhile (· ≠ ':'))

/-- Whether a text is a reference. -/
def accepts (s : String) : Bool :=
  let cs := s.toList
  let front := cs.takeWhile (· ≠ '#')
  let fragment := (cs.dropWhile (· ≠ '#')).drop 1
  isBody front && hasSoundStart front && isBody fragment

end FormModel.UriReference
