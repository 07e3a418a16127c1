import FormModel.Dict
import FormModel.Pattern.ExtendedReader
import FormModel.Text.Address
import FormModel.Text.Date

/-!
Named formats of strings, and the table in which the `format` keyword looks them up.
-/

namespace FormModel

/-- How a format knows the strings that conform to it. -/
inductive FormatTest where
  | pattern (p : Pattern)
  | predicate (test : String → Bool)

/-- Whether a string conforms. -/
def FormatTest.accepts : FormatTest → String → Bool
  | pattern p, s => p.isMatch s
  | predicate test, s => test s

/-- Formats by name, in order of registration. -/
abbrev FormatTable := Dict FormatTest

namespace FormatTable

/-- Whether a string conforms to a format; `none` for an unknown one. -/
def accepts? (table : FormatTable) (name s : String) : Option Bool :=
  (Dict.get? table name).map (·.accepts s)

/-- Adds a format, or replaces the test of one in its place. -/
def register (table : FormatTable) (name : String) (test : FormatTest) : FormatTable :=
  Dict.insert table name test

/-- A test by a pattern; one that cannot be read accepts nothing. -/
def ofPattern (source : String) : FormatTest :=
  match Pattern.parse? source with
  | some p => .pattern p
  | none => .predicate fun _ => false

/-- A count in braces. -/
def times (n : Nat) : String := "\x7b" ++ toString n ++ "\x7d"

/-- A count in braces, from `least` to `most`. -/
def timesTo (least most : Nat) : String := "\x7b" ++ toString least ++ "," ++ toString most ++ "\x7d"

/-- Times of day with an optional zone. -/
def timePattern : String :=
  "(?i)^[0-2]\\d:[0-5]\\d:[0-5]\\d(?:\\.\\d+)?(?:z|[+-]\\d\\d:?\\d\\d)?$"

/-- Names of hosts: labels of up to 63 characters between points. -/
def hostLabels : String :=
  let label := "[a-z0-9](?:[a-z0-9-]" ++ timesTo 0 61 ++ "[a-z0-9])?"
  label ++ "(?:\\." ++ label ++ ")*"

/-- Names of hosts. -/
def hostnamePattern : String := "(?i)^" ++ hostLabels ++ "$"

/-- Mail addresses. -/
def emailPattern : String := "(?i)^[a-z0-9.!#$%&'*+/=?^_`\x7b|\x7d~-]+@" ++ hostLabels ++ "$"

/-- References with a scheme. -/
def uriPattern : String := "(?i)^[a-z][a-z0-9+\\-.]*:(?://)?\\S*$"

/-- References with or without a scheme. -/
def uriReferencePattern : String :=
  "(?i)^(?:(?:[a-z][a-z0-9+\\-.]*:)?/?/)?(?:[^\\\\\\s#][^\\s#]*)?(?:#[^\\\\\\s]*)?$"

/-- A byte written with a percent sign. -/
def percentByte : String := "%[0-9a-f]" ++ times 2

/-- References with expressions in braces: names between commas, each with a length or a star. -/
def uriTemplatePattern : String :=
  let literal := "(?:[^\\x00-\\x20\"'<>%\\\\^`\x7b|\x7d]|" ++ percentByte ++ ")"
  let name := "(?:[a-z0-9_]|" ++ percentByte ++ ")+(?::[1-9][0-9]" ++ timesTo 0 3 ++ "|\\*)?"
  "(?i)^(?:" ++ literal ++ "|\\\x7b[+#./;?&=,!@|]?" ++ name ++ "(?:," ++ name ++ ")*\\\x7d)*$"

/-- Locations on the web or on a file server. -/
def urlPattern : String := "(?i)^(?:https?|ftp)://[^\\s/$.?#][^\\s]*$"

/-- Unique identifiers of 32 hexadecimal digits. -/
def uuidPattern : String :=
  let digits (n : Nat) := "[0-9a-f]" ++ times n
  "(?i)^(?:urn:uuid:)?" ++ digits 8 ++ "-(?:" ++ digits 4 ++ "-)" ++ times 3 ++ digits 12 ++ "$"

/-- Colours in the notations of style sheets. -/
def colorPattern : String :=
  let blank := "\\s*"
  let number := blank ++ "\\d" ++ timesTo 1 3 ++ blank
  let level := blank ++ "\\d" ++ timesTo 1 3 ++ "%?" ++ blank
  let percent := blank ++ "\\d" ++ timesTo 1 3 ++ "%" ++ blank
  let alpha := blank ++ "(?:\\d*\\.)?\\d+" ++ blank
  let hex := "#(?:[0-9a-f]" ++ times 3 ++ ")" ++ timesTo 1 2
  let rgb := "rgb\\((?:" ++ level ++ ",)" ++ times 2 ++ level ++ "\\)"
  let rgba := "rgba\\((?:" ++ level ++ ",)" ++ times 3 ++ alpha ++ "\\)"
  let hsl := "hsl\\(" ++ number ++ "," ++ percent ++ "," ++ percent ++ "\\)"
  let hsla := "hsla\\(" ++ number ++ "," ++ percent ++ "," ++ percent ++ "," ++ alpha ++ "\\)"
  "(?i)^\\s*(?:" ++ hex ++ "|" ++ rgb ++ "|" ++ rgba ++ "|" ++ hsl ++ "|" ++ hsla ++ ")\\s*$"

/-- Pointers: tokens with a slash before each, tildes only as `~0` and `~1`. -/
def pointerPattern : String := "^(?:/(?:[^~/]|~0|~1)*)*$"

/-- Pointers as fragments of a reference. -/
def pointerFragmentPattern : String :=
  "(?i)^#(?:/(?:[a-z0-9_\\-.!$&'()*+,;:=@]|" ++ percentByte ++ "|~0|~1)*)*$"

/-- A number of steps up and a pointer from there, or a hash sign. -/
def relativePointerPattern : String := "^(?:0|[1-9][0-9]*)(?:#|(?:/(?:[^~/]|~0|~1)*)*)$"

/-- The formats known from the start. -/
def standard : FormatTable := [
  ("date", .predicate isDate),
  ("time", ofPattern timePattern),
  ("date-time", .predicate isDateTime),
  ("email", ofPattern emailPattern),
  ("hostname", ofPattern hostnamePattern),
  ("ipv4", .predicate isIpv4),
  ("ipv6", .predicate isIpv6),
  ("uri", ofPattern uriPattern),
  ("uri-reference", ofPattern uriReferencePattern),
  ("uri-template", ofPattern uriTemplatePattern),
  ("url", ofPattern urlPattern),
  ("uuid", ofPattern uuidPattern),
  ("color", ofPattern colorPattern),
  ("json-pointer", ofPattern pointerPattern),
  ("json-pointer-uri-fragment", ofPattern pointerFragmentPattern),
  ("relative-json-pointer", ofPattern relativePointerPattern),
  ("regex", .predicate fun s => (Pattern.parse? s).isSome)]

end FormatTable

end FormModel
