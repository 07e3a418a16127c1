import FormModel.SchemaType
import FormModel.Unicode.Category

/-!
Converting form values to the types of a schema.  `coerce?` converts only where the value can be read as
one of the types; `repair?` goes on to readings that lose something, such as the number at the front of a
text.
-/

namespace FormModel

/-- A float as a number, as an integer if it is a whole one of less than 64 bits. -/
def numberOf (f : Float) : Json :=
  if isWhole f && f.abs < Float.ofNat 0x8000000000000000 then Json.ofInt (truncate f) else Json.ofFloat f

/-- The number read off the front of a text, or of a number itself. -/
structure LeadingText where
  /-- Whether a point and an exponent belong to the number. -/
  allowsFraction : Bool

namespace LeadingText

/-- The digits at the front and what follows them; digits of all scripts are taken. -/
def digits (cs : List Char) : List Char × List Char :=
  (cs.takeWhile Unicode.isDigit, cs.dropWhile Unicode.isDigit)

/-- The sign at the front, if there is one. -/
def sign (cs : List Char) : List Char × List Char :=
  match cs with
  | '+' :: rest => (['+'], rest)
  | '-' :: rest => (['-'], rest)
  | _ => ([], cs)

/-- An exponent at the front, if there is a whole one. -/
def exponent (cs : List Char) : List Char :=
  match cs with
  | c :: rest =>
    if c = 'e' ∨ c = 'E' then
      let (s, rest) := sign rest
      let (ds, _) := digits rest
      if ds.isEmpty then [] else c :: (s ++ ds)
    else []
  | [] => []

/-- The longest number at the front of a text. -/
def number? (l : LeadingText) (cs : List Char) : Option (List Char) :=
  let (s, rest) := sign cs
  let (whole, rest) := digits rest
  if !l.allowsFraction then (if whole.isEmpty then none else some (s ++ whole))
  else
    match rest with
    | '.' :: rest =>
      let (fraction, rest) := digits rest
      if whole.isEmpty && fraction.isEmpty then none
      else some (s ++ whole ++ '.' :: fraction ++ exponent rest)
    | rest => if whole.isEmpty then none else some (s ++ whole ++ exponent rest)

/-- The number that a value starts with. -/
def read? (l : LeadingText) : Json → Option Float
  | .num n => some n.toFloat
  | .str s => (l.number? (trimFront s.toList)).bind Decimal.readFloat?
  | _ => none

end LeadingText

namespace Json

/-- `value` as an integer, if it is or spells a whole number. -/
def asIntegerValue? (value : Json) : Option Json :=
  match value with
  | .num (.int i h) => some (.num (.int i h))
  | value => (value.asNumber?.filter isWhole).map numberOf

/-- `value` as a number, if it is or spells one. -/
def asNumberValue? (value : Json) : Option Json :=
  match value with
  | .num n => some (.num n)
  | value => value.asNumber?.map numberOf

/-- `value` as a string, if it is a string or a number. -/
def asStringValue? : Json → Option Json
  | .str s => some (.str s)
  | .num n => some (.str n.text)
  | _ => none

/-- `value` as the first of the types that can hold what it says: integer, number, string, boolean.
Unless `strict`, an integer may have a fraction. -/
def coerceTo? (value : Json) (types : List SchemaType) (strict : Bool) : Option Json :=
  if value.isNull then none
  else
    let asInteger := if strict && types.contains .integer then value.asIntegerValue? else none
    let asNumber :=
      if types.contains .number || (!strict && types.contains .integer) then value.asNumberValue? else none
    let asString := if types.contains .string then value.asStringValue? else none
    let asFlag := if types.contains .boolean then value.asBool?.map .bool else none
    asInteger <|> asNumber <|> asString <|> asFlag

/-- `value` converted to the value of a `type` keyword. -/
def coerce? (value types : Json) (strict : Bool) : Option Json :=
  value.coerceTo? (SchemaType.listOf types) strict

/-- What is left to try once no exact reading fits: blanks and flags as numbers, the number a text
starts with, any value as a flag, and zero. -/
def lastResort? (value : Json) (types : List SchemaType) : Option Json :=
  let numeric := types.contains .number || types.contains .integer
  let fromBlank : Option Json :=
    if numeric then
      match value with
      | .bool true => some (ofNat 1)
      | .bool false => some (ofNat 0)
      | .null => some (ofNat 0)
      | .str s => if s.isEmpty then some (ofNat 0) else none
      | _ => none
    else none
  let fromFront : Option Json :=
    if types.contains .number then
      (((LeadingText.mk true).read? value).filter (· != 0)).map numberOf
    else none
  let fromWholeFront : Option Json :=
    if types.contains .integer then
      (((LeadingText.mk false).read? value).filter (· != 0)).map fun f =>
        if f.isFinite then numberOf (Float.ofInt (truncate f)) else ofFloat f
    else none
  let asFlag : Option Json := if types.contains .boolean then some (.bool value.isTruthy) else none
  let zero : Option Json := if numeric && !types.contains .null then some (ofNat 0) else none
  fromBlank <|> fromFront <|> fromWholeFront <|> asFlag <|> zero

/-- `value` made to fit one of the types, with loss where it has to be. -/
def repairTo? (value : Json) (types : List SchemaType) : Option Json :=
  if types.contains .null && !value.hasValue then some .null
  else if types.contains .boolean && value.isBool then some value
  else
    let asInteger := if types.contains .integer then value.coerceTo? [.integer] true else none
    let asNumber := if types.contains .number then value.coerceTo? [.number] true else none
    match asInteger <|> asNumber with
    | some r => some r
    | none =>
      if types.contains .string && (value.isStr || value.isNum) then value.coerceTo? [.string] true
      else
        let asFlag := if types.contains .boolean then value.asBool?.map .bool else none
        let asText : Option Json := if types.contains .string && value.isNull then some (.str "") else none
        asFlag <|> asText <|> value.lastResort? types

/-- `value` made to fit the value of a `type` keyword. -/
def repair? (value types : Json) : Option Json := value.repairTo? (SchemaType.listOf types)

end Json

end FormModel
