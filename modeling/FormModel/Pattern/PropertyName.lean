import FormModel.Pattern.CharSet

/-!
The names by which a pattern refers to properties of characters.  A name is read without regard to case,
blanks, dashes and underscores, and may begin with `is`.
-/

namespace FormModel.CharSet

/-- A name as it is looked up: in lower case, without blanks, dashes, underscores, whatever is not of ASCII,
and an `is` that it begins with.  With that `is`, the one name `isc` is kept as it stands. -/
def looseName (name : List Char) : String :=
  let strip (cs : List Char) : String :=
    String.ofList ((cs.filter fun c => c ≠ ' ' ∧ c ≠ '-' ∧ c ≠ '_' ∧ c.toNat < 128).map Char.toLower)
  match name with
  | i :: s :: rest =>
    if i.toLower = 'i' ∧ s.toLower = 's' then
      if strip rest = "c" then "isc" else strip rest
    else strip name
  | name => strip name

/-- The general categories with their long names. -/
def categoryNames : List (String × String) := [
  ("C", "other"), ("Cc", "control"), ("Cf", "format"), ("Cn", "unassigned"), ("Co", "privateuse"),
  ("L", "letter"), ("Ll", "lowercaseletter"), ("Lm", "modifierletter"), ("Lo", "otherletter"),
  ("Lt", "titlecaseletter"), ("Lu", "uppercaseletter"), ("M", "mark"), ("Mc", "spacingmark"),
  ("Me", "enclosingmark"), ("Mn", "nonspacingmark"), ("N", "number"), ("Nd", "decimalnumber"),
  ("Nl", "letternumber"), ("No", "othernumber"), ("P", "punctuation"), ("Pc", "connectorpunctuation"),
  ("Pd", "dashpunctuation"), ("Pe", "closepunctuation"), ("Pf", "finalpunctuation"),
  ("Pi", "initialpunctuation"), ("Po", "otherpunctuation"), ("Ps", "openpunctuation"), ("S", "symbol"),
  ("Sc", "currencysymbol"), ("Sk", "modifiersymbol"), ("Sm", "mathsymbol"), ("So", "othersymbol"),
  ("Z", "separator"), ("Zl", "lineseparator"), ("Zp", "paragraphseparator"), ("Zs", "spaceseparator"),
  ("Nd", "digit"), ("P", "punct"), ("Cc", "cntrl"), ("M", "combiningmark")]

/-- The set of a general category, by the name as it is looked up. -/
def category? (name : String) : Option CharSet :=
  match name with
  | "any" => some all
  | "ascii" => some ascii
  | "assigned" => some (compl (property (.category "Cn")))
  | "lc" => some (property .casedLetter)
  | "casedletter" => some (property .casedLetter)
  | name =>
    (categoryNames.find? fun (short, long) => short.toLower == name || long == name).map
      fun (short, _) => property (.category short)

/-- The letters of a script, by the name as it is looked up. -/
def scriptLetters? (name : String) : Option String :=
  (Unicode.scriptNames.find? fun (short, long) => short.toLower == name || long == name).map (·.1)

/-- The set of a script. -/
def script? (name : String) : Option CharSet := (scriptLetters? name).map fun s => property (.script s)

/-- The set of the characters that some version of Unicode knows: a version is written as `15.1` or
`v151`. -/
def age? (name : String) : Option CharSet :=
  (Unicode.ages.find? fun version =>
    name == toString (version / 10) ++ "." ++ toString (version % 10) || name == "v" ++ toString version).map
      fun version => property (.age version)

/-- The set of a class in the division into what is read as one character. -/
def grapheme? (name : String) : Option CharSet :=
  (([("cr", .cr), ("lf", .lf), ("cn", .control), ("control", .control), ("ex", .extend), ("extend", .extend),
    ("zwj", .joiner), ("ri", .regionalIndicator), ("regionalindicator", .regionalIndicator),
    ("pp", .prepended), ("prepend", .prepended), ("sm", .spacingMark), ("spacingmark", .spacingMark),
    ("l", .leading), ("v", .vowel), ("t", .trailing), ("lv", .openSyllable), ("lvt", .closedSyllable)] :
      List (String × Unicode.GraphemeClass)).lookup name).map fun k => property (.grapheme k)

/-- The set of a class in the division into words. -/
def word? (name : String) : Option CharSet :=
  (([("cr", .cr), ("lf", .lf), ("nl", .newline), ("newline", .newline), ("wsegspace", .blank),
    ("le", .letter), ("aletter", .letter), ("hl", .hebrewLetter), ("hebrewletter", .hebrewLetter),
    ("ka", .katakana), ("katakana", .katakana), ("nu", .numeric), ("numeric", .numeric), ("ex", .connector),
    ("extendnumlet", .connector), ("ml", .midLetter), ("midletter", .midLetter), ("mn", .midNumber),
    ("midnum", .midNumber), ("mb", .midBoth), ("midnumlet", .midBoth), ("sq", .singleQuote),
    ("singlequote", .singleQuote), ("dq", .doubleQuote), ("doublequote", .doubleQuote), ("extend", .extend),
    ("fo", .format), ("format", .format), ("zwj", .joiner), ("ri", .regionalIndicator),
    ("regionalindicator", .regionalIndicator)] :
      List (String × Unicode.WordClass)).lookup name).map fun k => property (.word k)

/-- The set of a class in the division into sentences. -/
def sentence? (name : String) : Option CharSet :=
  (([("cr", .cr), ("lf", .lf), ("se", .separator), ("sep", .separator), ("sp", .blank), ("lo", .lower),
    ("lower", .lower), ("up", .upper), ("upper", .upper), ("le", .letter), ("oletter", .letter),
    ("nu", .numeric), ("numeric", .numeric), ("at", .fullStop), ("aterm", .fullStop), ("st", .terminal),
    ("sterm", .terminal), ("cl", .bracket), ("close", .bracket), ("sc", .continuation),
    ("scontinue", .continuation), ("ex", .extend), ("extend", .extend), ("fo", .format),
    ("format", .format)] :
      List (String × Unicode.SentenceClass)).lookup name).map fun k => property (.sentence k)

/-- The set of a property that characters have or have not. -/
def binary? (name : String) : Option CharSet :=
  (Unicode.propertyNames.lookup name).map fun p => property (.binary p)

/-- The set that a name alone stands for: of a property that characters have or have not, of a general
category, or of a script. -/
def named? (name : List Char) : Option CharSet :=
  let name := looseName name
  binary? name <|> category? name <|> script? name

/-- The set of the characters for which a property has a value. -/
def valued? (name value : List Char) : Option CharSet :=
  let value := looseName value
  match looseName name with
  | "gc" => category? value
  | "generalcategory" => category? value
  | "sc" => script? value
  | "script" => script? value
  | "scx" => (scriptLetters? value).map fun s => property (.usedWith s)
  | "scriptextensions" => (scriptLetters? value).map fun s => property (.usedWith s)
  | "age" => age? value
  | "gcb" => grapheme? value
  | "graphemeclusterbreak" => grapheme? value
  | "wb" => word? value
  | "wordbreak" => word? value
  | "sb" => sentence? value
  | "sentencebreak" => sentence? value
  | _ => Option.none

end FormModel.CharSet
