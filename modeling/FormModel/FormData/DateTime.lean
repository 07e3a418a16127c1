import FormModel.Text.Blank
import FormModel.Unicode.Category

/-!
Dates and times as they come out of a form, and what has to be put behind them to make them complete: the
zone, the seconds, or the whole time.
-/

namespace FormModel

namespace DateTime

/-- The text after a stretch whose characters pass the tests one by one. -/
def afterShape? : List (Char → Bool) → List Char → Option (List Char)
  | [], cs => some cs
  | test :: tests, c :: cs => if test c then afterShape? tests cs else none
  | _ :: _, [] => none

/-- Whether a character is an ASCII digit up to `last`. -/
def upTo (last : Char) (c : Char) : Bool := '0' ≤ c && c ≤ last

/-- A date: four, two and two digits between dashes. -/
def date : List (Char → Bool) :=
  let d := Unicode.isDigit
  [d, d, d, d, (· == '-'), upTo '1', d, (· == '-'), upTo '3', d]

/-- Hours and minutes, behind a `T` or a blank. -/
def minutes : List (Char → Bool) :=
  let separates (c : Char) : Bool := c == 'T' || c == 't' || isBlank c
  [separates, upTo '2', Unicode.isDigit, (· == ':'), upTo '5', Unicode.isDigit]

/-- Seconds. -/
def seconds : List (Char → Bool) := [(· == ':'), upTo '5', Unicode.isDigit]

/-- Nothing, or a point and digits. -/
def isFraction : List Char → Bool
  | [] => true
  | '.' :: ds => !ds.isEmpty && ds.all Unicode.isDigit
  | _ => false

/-- Whether a text is a date and a time that only lacks its zone. -/
def lacksZone (cs : List Char) : Bool := (afterShape? (date ++ minutes ++ seconds) cs).any isFraction

/-- Whether a text is a date and a time that lacks seconds and zone. -/
def lacksSeconds (cs : List Char) : Bool := (afterShape? (date ++ minutes) cs).any List.isEmpty

/-- Whether a text is a date without a time. -/
def lacksTime (cs : List Char) : Bool := (afterShape? date cs).any List.isEmpty

/-- The text with what it lacks of a date and time; a missing time only where repairs are asked for. -/
def complete? (text : String) (fixErrors : Bool) : Option String :=
  let cs := text.toList
  if lacksZone cs then some (text ++ "Z")
  else if lacksSeconds cs then some (text ++ ":00Z")
  else if fixErrors && lacksTime cs then some (text ++ "T00:00:00Z")
  else none

end DateTime

end FormModel
