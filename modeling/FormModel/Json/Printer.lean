import FormModel.Json

/-!
The text of a JSON value, on one line or indented by two spaces.  Only quotes, backslashes and control
characters are escaped.
-/

namespace FormModel.Json

/-- How one character is written inside quotes. -/
def escapeChar (c : Char) : List Char :=
  if c = '"' then ['\\', '"']
  else if c = '\\' then ['\\', '\\']
  else if c = '\n' then ['\\', 'n']
  else if c = '\r' then ['\\', 'r']
  else if c = '\t' then ['\\', 't']
  else if c.toNat = 8 then ['\\', 'b']
  else if c.toNat = 12 then ['\\', 'f']
  else if c.toNat < 32 then ['\\', 'u', '0', '0', (c.toNat / 16).digitChar, (c.toNat % 16).digitChar]
  else [c]

/-- A string in quotes. -/
def quote (s : String) : String := String.ofList ('"' :: s.toList.flatMap escapeChar ++ ['"'])

mutual
/-- The text of a value without blanks. -/
def compact : Json → String
  | .null => "null"
  | .bool b => if b then "true" else "false"
  | .num n => n.text
  | .str s => quote s
  | .arr items => "[" ++ String.intercalate "," (compactItems items) ++ "]"
  | .obj members => "\x7b" ++ String.intercalate "," (compactMembers members) ++ "\x7d"

/-- The texts of the items. -/
def compactItems : List Json → List String
  | [] => []
  | j :: rest => compact j :: compactItems rest

/-- The texts of the members, each with its name. -/
def compactMembers : List (String × Json) → List String
  | [] => []
  | (k, j) :: rest => (quote k ++ ":" ++ compact j) :: compactMembers rest
end

/-- The lines of a container: brackets on lines of their own, entries one level deeper. -/
def bracketed (indent : String) (left right : String) (entries : List String) : String :=
  if entries.isEmpty then left ++ right
  else
    let inner := "\n" ++ indent ++ "  "
    left ++ inner ++ String.intercalate ("," ++ inner) entries ++ "\n" ++ indent ++ right

mutual
/-- The indented text of a value whose first line starts after `indent`. -/
def indented (indent : String) : Json → String
  | .arr items => bracketed indent "[" "]" (indentedItems (indent ++ "  ") items)
  | .obj members => bracketed indent "\x7b" "\x7d" (indentedMembers (indent ++ "  ") members)
  | .null => "null"
  | .bool b => if b then "true" else "false"
  | .num n => n.text
  | .str s => quote s

/-- The indented texts of the items. -/
def indentedItems (indent : String) : List Json → List String
  | [] => []
  | j :: rest => indented indent j :: indentedItems indent rest

/-- The indented texts of the members. -/
def indentedMembers (indent : String) : List (String × Json) → List String
  | [] => []
  | (k, j) :: rest => (quote k ++ ": " ++ indented indent j) :: indentedMembers indent rest
end

/-- The text of a value over several lines. -/
def pretty (j : Json) : String := indented "" j

end FormModel.Json
