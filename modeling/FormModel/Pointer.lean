import FormModel.Text.Percent

/-!
JSON Pointers.  A pointer is a list of tokens, written with a slash before each; a tilde and a slash
inside a token are written `~0` and `~1`.  A text that starts with a hash sign is a URI fragment and
is percent-decoded first.  The empty text, a hash sign and a single slash all mean the whole document.
-/

namespace FormModel

/-- The tokens of a pointer, unescaped. -/
abbrev Tokens := List String

/-- Why a text is not a pointer. -/
inductive PointerError where
  /-- It neither is empty nor starts with a slash or a hash sign. -/
  | unrooted (text : String)
  /-- A tilde stands before something else than `0` and `1`. -/
  | looseTilde (text : String)
  deriving DecidableEq, Repr

/-- The text of the error. -/
def PointerError.message : PointerError → String
  | .unrooted text =>
    "invalid JSON Pointer \"" ++ text ++ "\": must be empty or start with '/' or '#'"
  | .looseTilde text =>
    "invalid JSON Pointer \"" ++ text ++ "\": '~' must be followed by '0' or '1'"

namespace Pointer

/-- How one character of a token is written. -/
def escapeChar (c : Char) : List Char :=
  if c = '~' then ['~', '0'] else if c = '/' then ['~', '1'] else [c]

/-- A token as it is written. -/
def escapeChars (cs : List Char) : List Char := cs.flatMap escapeChar

/-- `a` and `b` in a row replaced by `c` throughout, from left to right. -/
def replacePair (a b c : Char) : List Char → List Char
  | x :: y :: rest =>
    if x = a ∧ y = b then c :: replacePair a b c rest else x :: replacePair a b c (y :: rest)
  | rest => rest

/-- A written token read back: first `~1`, then `~0`. -/
def unescapeChars (cs : List Char) : List Char := replacePair '~' '0' '~' (replacePair '~' '1' '/' cs)

/-- A token as it is written. -/
def escape (token : String) : String := String.ofList (escapeChars token.toList)

/-- The token that a text is written for. -/
def unescape (text : String) : String := String.ofList (unescapeChars text.toList)

/-- Whether some tilde is followed by neither `0` nor `1`. -/
def hasLooseTilde : List Char → Bool
  | [] => false
  | c :: rest => (c == '~' && !(rest.head? == some '0' || rest.head? == some '1')) || hasLooseTilde rest

/-- The parts of a text between slashes. -/
def splitSlashes : List Char → List (List Char)
  | [] => [[]]
  | c :: rest =>
    if c = '/' then [] :: splitSlashes rest
    else match splitSlashes rest with
      | part :: parts => (c :: part) :: parts
      | [] => [[c]]

/-- The tokens of a decoded text, if it is empty or starts with a slash. -/
def tokensOfBody : List Char → Option Tokens
  | [] => some []
  | ['/'] => some []
  | '/' :: rest => some ((splitSlashes rest).map fun part => String.ofList (unescapeChars part))
  | _ => none

/-- The tokens of a pointer, or what is wrong with it.  Tildes are checked before decoding. -/
def parse (text : String) : Except PointerError Tokens :=
  let cs := text.toList
  let isFragment := cs.head? == some '#'
  if !(cs.isEmpty || cs.head? == some '/' || isFragment) then .error (.unrooted text)
  else if hasLooseTilde cs then .error (.looseTilde text)
  else
    let body := if isFragment then (Percent.decode (String.ofList cs.tail)).toList else cs
    match tokensOfBody body with
    | some tokens => .ok tokens
    | none => .error (.unrooted text)

/-- The tokens of a pointer. -/
def parse? (text : String) : Option Tokens := (parse text).toOption

/-- Whether a text looks like a pointer: empty, a hash sign, or a slash after an optional hash sign, with
every tilde followed by `0` or `1`. -/
def isPointer (text : String) : Bool :=
  match text.toList with
  | [] => true
  | ['#'] => true
  | '/' :: rest => !hasLooseTilde rest
  | '#' :: '/' :: rest => !hasLooseTilde rest
  | _ => false

/-- Tokens as text; `default` is written for an empty token. -/
def compileWith (default : String) (tokens : Tokens) : String :=
  String.ofList (tokens.flatMap fun token =>
    '/' :: if token.isEmpty then default.toList else escapeChars token.toList)

/-- Tokens as text. -/
def compile (tokens : Tokens) : String := compileWith "" tokens

/-- The location of a member or item below a location. -/
def child (location key : String) : String := location ++ "/" ++ escape key

/-- Whether `short` is `long` or an ancestor of it, or only an ancestor when `strict`. -/
def isAncestor (short long : String) (strict : Bool) : Bool :=
  if short = long then !strict
  else (short.toList ++ ['/']).isPrefixOf long.toList

/-- The position that a token names in an array: decimal digits without leading zeros. -/
def index? (token : String) : Option Nat :=
  let cs := token.toList
  if cs.isEmpty || !cs.all Char.isDigit then none
  else if cs.length > 1 && cs.head? == some '0' then none
  else
    let n := cs.foldl (fun n c => n * 10 + (c.toNat - '0'.toNat)) 0
    if n < 0x10000000000000000 then some n else none

/-- Whether a token is made for an array: a position, or a dash for the end. -/
def isIndexToken (token : String) : Bool := token == "-" || (index? token).isSome

end Pointer

/-- A pointer given as text or as tokens. -/
inductive Address where
  | text (text : String)
  | tokens (tokens : Tokens)
  deriving DecidableEq, Repr

namespace Address

/-- The tokens of an address, or why there are none. -/
def parse : Address → Except PointerError Tokens
  | .text s => Pointer.parse s
  | .tokens ts => .ok ts

/-- The tokens of an address. -/
def parse? (a : Address) : Option Tokens := a.parse.toOption

/-- The pointer in its written form. -/
def compile? (a : Address) : Option String := a.parse?.map Pointer.compile

/-- The last token. -/
def key? (a : Address) : Option String := a.parse?.bind (·.getLast?)

end Address

end FormModel
