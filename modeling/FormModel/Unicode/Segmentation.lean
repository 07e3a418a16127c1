import FormModel.Unicode.Emoji
import FormModel.Unicode.Ideograph
import FormModel.Unicode.Letter
import FormModel.Unicode.Mark
import FormModel.Unicode.Punctuation
import FormModel.Unicode.Script

/-!
The classes by which text is divided into what is read as one character, into words and into sentences.  Each
character is of one class in each of the three divisions.
-/

namespace FormModel.Unicode

/-- What a character is to the division into what is read as one character. -/
inductive GraphemeClass where
  | cr
  | lf
  | control
  | extend
  | joiner
  | regionalIndicator
  | prepended
  | spacingMark
  /-- The leading consonants, the vowels and the trailing consonants of Hangul. -/
  | leading
  | vowel
  | trailing
  /-- Syllables without and with a trailing consonant. -/
  | openSyllable
  | closedSyllable
  | other
  deriving DecidableEq, Repr

/-- Letters that are read as one with the character behind them. -/
def prependedLetter : Table := .read ["D4E 111C2-111C3 113D1 1193F 11941 11A3A 11A84-11A89 11D46 11F02"]

/-- Vowel signs that leave what is read as one character as it is. -/
def independentSign : Table := .read [
  "102B-102C 1038 1062-1064 1067-106D 1083 1087-108C 108F 109A-109C 1A61 1A63-1A64 AA7B AA7D",
  "11720-11721"]

/-- Vowel signs that are no marks. -/
def vowelLetter : Table := .read ["E33 EB3"]

/-- The leading consonants of Hangul. -/
def leadingConsonant : Table := .read ["1100-115F A960-A97C"]

/-- The vowels of Hangul, and those of another script that are joined alike. -/
def hangulVowel : Table := .read ["1160-11A7 D7B0-D7C6 16D63 16D67-16D6A"]

/-- The trailing consonants of Hangul. -/
def trailingConsonant : Table := .read ["11A8-11FF D7CB-D7FB"]

/-- The syllables of Hangul: for each of the open ones, the 27 that close it follow. -/
def hangulSyllable : Table := .read ["AC00-D7A3"]

/-- What extends the character before: marks and the tones of skin. -/
def extendsCharacter (c : Char) : Bool := isGraphemeExtend c || emojiModifier.contains c

/-- The class of a character in the division into what is read as one character. -/
def graphemeClass (c : Char) : GraphemeClass :=
  if c = '\r' then .cr
  else if c = '\n' then .lf
  else if c.toNat = 0x200D then .joiner
  else if extendsCharacter c then .extend
  else if prependedConcatenationMark.contains c || prependedLetter.contains c then .prepended
  else if regionalIndicator.contains c then .regionalIndicator
  else if leadingConsonant.contains c then .leading
  else if hangulVowel.contains c then .vowel
  else if trailingConsonant.contains c then .trailing
  else if hangulSyllable.contains c then
    if (c.toNat - 0xAC00) % 28 = 0 then .openSyllable else .closedSyllable
  else if inCategories ["Zl", "Zp", "Cc", "Cf"] c then .control
  else if category c == "Cn" && isDefaultIgnorable c then .control
  else if (category c == "Mc" && !independentSign.contains c) || vowelLetter.contains c then .spacingMark
  else .other

/-- What a character is to the division into words. -/
inductive WordClass where
  | cr
  | lf
  | newline
  | blank
  | letter
  | hebrewLetter
  | katakana
  | numeric
  /-- What connects letters and digits. -/
  | connector
  /-- What stands between letters, between digits, or between either. -/
  | midLetter
  | midNumber
  | midBoth
  | singleQuote
  | doubleQuote
  | extend
  | format
  | joiner
  | regionalIndicator
  | other
  deriving DecidableEq, Repr

/-- What extends a word: marks of all kinds. -/
def extendsWord (c : Char) : Bool := extendsCharacter c || category c == "Mc"

/-- Blanks that are kept together. -/
def wordBlank : Table := .read ["20 1680 2000-2006 2008-200A 205F 3000"]

/-- Signs used with Katakana. -/
def katakanaSign : Table := .read ["3031-3035 309B-309C 30A0 30FC FF70"]

/-- Signs that count as digits: separators and signs around numbers. -/
def numericSign : Table := .read ["600-605 66B 6DD 890-891 8E2 19DA 110BD 110CD"]

/-- Marks between letters. -/
def midLetterMark : Table := .read ["3A B7 387 55F 5F4 2027 FE13 FE55 FF1A"]

/-- Marks between digits. -/
def midNumberMark : Table := .read ["2C 3B 37E 589 60C-60D 66C 7F8 2044 FE50 FE54 FF0C FF1B"]

/-- Marks between letters and between digits. -/
def midBothMark : Table := .read ["2E 2018-2019 2024 FE52 FF07 FF0E"]

/-- Signs that count as letters in words. -/
def letterSign : Table := .read [
  "2C2-2C5 2D2-2D7 2DE-2DF 2E5-2EB 2ED 2EF-2FF 55A-55C 55E 58A 5F3 70F A708-A716 A720-A721",
  "A789-A78A AB5B"]

/-- The scripts of letters whose words are not told apart by blanks. -/
def unspacedScripts : List String := [
  "Ahom", "Hira", "Khmr", "Lana", "Laoo", "Mymr", "Tale", "Talu", "Tavt", "Thai"]

/-- The class of a character in the division into words. -/
def wordClass (c : Char) : WordClass :=
  if c = '\r' then .cr
  else if c = '\n' then .lf
  else if c = '\'' then .singleQuote
  else if c = '"' then .doubleQuote
  else if c = '\x0B' || c = '\x0C' || c.toNat = 0x85 || inCategories ["Zl", "Zp"] c then .newline
  else if c.toNat = 0x200D then .joiner
  else if extendsWord c then .extend
  else if numericSign.contains c || category c == "Nd" then .numeric
  else if wordBlank.contains c then .blank
  else if category c == "Pc" || c.toNat = 0x202F then .connector
  else if regionalIndicator.contains c then .regionalIndicator
  else if midLetterMark.contains c then .midLetter
  else if midNumberMark.contains c then .midNumber
  else if midBothMark.contains c then .midBoth
  else if letterSign.contains c then .letter
  else if category c == "Cf" && c.toNat != 0x200B then .format
  else if script c == "Kana" || katakanaSign.contains c then .katakana
  else if script c == "Hebr" && category c == "Lo" then .hebrewLetter
  else if isAlphabetic c && !ideographic.contains c && !unspacedScripts.contains (script c) then .letter
  else .other

/-- What a character is to the division into sentences. -/
inductive SentenceClass where
  | cr
  | lf
  | separator
  | blank
  | lower
  | upper
  | letter
  | numeric
  /-- A full stop, which ends a sentence or an abbreviation. -/
  | fullStop
  /-- What ends sentences only. -/
  | terminal
  /-- Brackets and quotation marks. -/
  | bracket
  /-- What goes on with a sentence. -/
  | continuation
  | extend
  | format
  | other
  deriving DecidableEq, Repr

/-- Full stops. -/
def fullStop : Table := .read ["2E 2024 FE52 FF0E"]

/-- Marks that go on with a sentence. -/
def continuationMark : Table := .read [
  "2C-2D 3A-3B 37E 55D 60C-60D 7F8 1802 1808 2013-2014 3001 FE10-FE11 FE13-FE14 FE31-FE32",
  "FE50-FE51 FE54-FE55 FE58 FE63 FF0C-FF0D FF1A-FF1B FF64"]

/-- Quotation marks outside of the categories of brackets. -/
def otherBracket : Table := .read ["22 27 275B-2760 2E00-2E01 2E06-2E08 2E0B 1F676-1F678"]

/-- The Georgian letters and their capitals, which are not told apart at the start of a sentence. -/
def georgianLetter : Table := .read ["10D0-10FA 10FD-10FF 1C90-1CBA 1CBD-1CBF"]

/-- The class of a character in the division into sentences. -/
def sentenceClass (c : Char) : SentenceClass :=
  if c = '\r' then .cr
  else if c = '\n' then .lf
  else if c.toNat = 0x85 || inCategories ["Zl", "Zp"] c then .separator
  else if isBlank c then .blank
  else if c.toNat = 0x200D || isGraphemeExtend c || category c == "Mc" then .extend
  else if numericSign.contains c || c.toNat = 0x66C || category c == "Nd" then .numeric
  else if fullStop.contains c then .fullStop
  else if sentenceTerminal.contains c then .terminal
  else if continuationMark.contains c then .continuation
  else if inCategories ["Ps", "Pe", "Pi", "Pf"] c || otherBracket.contains c then .bracket
  else if category c == "Cf" then .format
  else if isLowercase c && !georgianLetter.contains c then .lower
  else if (isUppercase c || category c == "Lt") && !georgianLetter.contains c then .upper
  else if isAlphabetic c || c.toNat = 0x5F3 then .letter
  else .other

end FormModel.Unicode
