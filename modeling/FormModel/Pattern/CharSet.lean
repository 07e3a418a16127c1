import FormModel.Unicode.Age
import FormModel.Unicode.Property

/-!
Sets of characters, as the classes of a pattern describe them.
-/

namespace FormModel

/-- A property of characters. -/
inductive CharProperty where
  | digit
  | wordChar
  /-- A property of the Unicode standard that a character has or has not. -/
  | binary (p : Unicode.Property)
  /-- A general category, by two letters, or by the first of them for all categories of one kind. -/
  | category (name : String)
  /-- Upper, lower and title case letters. -/
  | casedLetter
  /-- A script, by four letters. -/
  | script (name : String)
  /-- Use with a script, which may be shared with others. -/
  | usedWith (name : String)
  /-- Assigned by a version of Unicode or an earlier one; 151 stands for 15.1. -/
  | age (version : Nat)
  | grapheme (k : Unicode.GraphemeClass)
  | word (k : Unicode.WordClass)
  | sentence (k : Unicode.SentenceClass)
  deriving DecidableEq, Repr

/-- Whether a character has a property. -/
def CharProperty.holds : CharProperty → Char → Bool
  | digit, c => Unicode.isDigit c
  | wordChar, c => Unicode.isWordChar c
  | binary p, c => p.holds c
  | category name, c => (Unicode.category c).startsWith name
  | casedLetter, c => Unicode.inCategories ["Lu", "Ll", "Lt"] c
  | script name, c => Unicode.script c == name
  | usedWith name, c => (Unicode.scripts c).contains name
  | age version, c => (Unicode.age? c).any (· ≤ version)
  | grapheme k, c => Unicode.graphemeClass c == k
  | word k, c => Unicode.wordClass c == k
  | sentence k, c => Unicode.sentenceClass c == k

/-- A set of characters. -/
inductive CharSet where
  | none
  | range (first last : Char)
  | property (p : CharProperty)
  | union (a b : CharSet)
  | inter (a b : CharSet)
  | diff (a b : CharSet)
  | symmDiff (a b : CharSet)
  | compl (a : CharSet)
  /-- With a character, all that differ from it only in case. -/
  | anyCase (a : CharSet)
  deriving DecidableEq, Repr

namespace CharSet

/-- Membership. -/
def contains : CharSet → Char → Bool
  | none, _ => false
  | range first last, c => first ≤ c && c ≤ last
  | property p, c => p.holds c
  | union a b, c => a.contains c || b.contains c
  | inter a b, c => a.contains c && b.contains c
  | diff a b, c => a.contains c && !b.contains c
  | symmDiff a b, c => a.contains c != b.contains c
  | compl a, c => !a.contains c
  | anyCase a, c => (Unicode.caseVariants c).any a.contains

/-- One character. -/
def single (c : Char) : CharSet := range c c

/-- All characters. -/
def all : CharSet := compl none

/-- The union of a list. -/
def unions : List CharSet → CharSet
  | [] => none
  | [a] => a
  | a :: rest => union a (unions rest)

/-- Ranges given by their ends. -/
def ranges (rs : List (Char × Char)) : CharSet := unions (rs.map fun (a, b) => range a b)

/-- The complement if `negated`. -/
def negateIf (negated : Bool) (a : CharSet) : CharSet := if negated then compl a else a

/-- Closed under case if `ignoreCase`. -/
def anyCaseIf (ignoreCase : Bool) (a : CharSet) : CharSet := if ignoreCase then anyCase a else a

/-- The digits of ASCII. -/
def asciiDigit : CharSet := range '0' '9'

/-- The characters of words in ASCII. -/
def asciiWord : CharSet := ranges [('0', '9'), ('A', 'Z'), ('_', '_'), ('a', 'z')]

/-- The blanks of ASCII. -/
def asciiBlank : CharSet := ranges [('\t', '\r'), (' ', ' ')]

/-- The characters of ASCII. -/
def ascii : CharSet := range '\x00' '\x7F'

/-- All blanks. -/
def blank : CharSet := property (.binary .whiteSpace)

/-- Hexadecimal digits. -/
def hexDigit : CharSet := ranges [('0', '9'), ('A', 'F'), ('a', 'f')]

/-- The named classes of ASCII. -/
def posix? : String → Option CharSet
  | "alnum" => some (ranges [('0', '9'), ('A', 'Z'), ('a', 'z')])
  | "alpha" => some (ranges [('A', 'Z'), ('a', 'z')])
  | "ascii" => some ascii
  | "blank" => some (ranges [('\t', '\t'), (' ', ' ')])
  | "cntrl" => some (ranges [('\x00', '\x1F'), ('\x7F', '\x7F')])
  | "digit" => some asciiDigit
  | "graph" => some (range '!' '~')
  | "lower" => some (range 'a' 'z')
  | "print" => some (range ' ' '~')
  | "punct" => some (ranges [('!', '/'), (':', '@'), ('[', '\x60'), ('\x7B', '~')])
  | "space" => some asciiBlank
  | "upper" => some (range 'A' 'Z')
  | "word" => some asciiWord
  | "xdigit" => some hexDigit
  | _ => Option.none

end CharSet

end FormModel
