import FormModel.Text.Blank

/-!
Dates and times as text: calendar dates with numbers of any length, and date-times with fields of fixed
length.
-/

namespace FormModel

/-- The leap years of the Gregorian calendar. -/
def isLeapYear (year : Int) : Bool := year % 4 == 0 && (year % 100 != 0 || year % 400 == 0)

/-- The number of days of a month. -/
def daysIn (year : Int) (month : Nat) : Nat :=
  if month = 2 then (if isLeapYear year then 29 else 28)
  else if month = 4 ∨ month = 6 ∨ month = 9 ∨ month = 11 then 30
  else 31

/-- Whether a day is in the calendar, which runs from year -262143 to 262142. -/
def isDay (year : Int) (month day : Nat) : Bool :=
  -262143 ≤ year && year ≤ 262142 && 1 ≤ month && month ≤ 12 && 1 ≤ day && day ≤ daysIn year month

namespace DateText

/-- Digits as a number. -/
def value (digits : List Char) : Nat := digits.foldl (fun n c => n * 10 + (c.toNat - '0'.toNat)) 0

/-- At most `most` digits and at least one, as a number. -/
def number? (most : Nat) (cs : List Char) : Option (Nat × List Char) :=
  let digits := (cs.take most).takeWhile Char.isDigit
  if digits.isEmpty then none else some (value digits, cs.drop digits.length)

/-- Exactly `count` digits, as a number. -/
def field? (count : Nat) (cs : List Char) : Option (Nat × List Char) :=
  let digits := cs.take count
  if digits.length = count ∧ digits.all Char.isDigit then some (value digits, cs.drop count) else none

/-- One given character. -/
def char? (c : Char) : List Char → Option (List Char)
  | [] => none
  | d :: rest => if d = c then some rest else none

/-- A year of up to four digits, or of any number of digits behind a sign. -/
def year? (cs : List Char) : Option (Int × List Char) :=
  match cs with
  | '-' :: rest => (number? rest.length rest).map fun (n, rest) => (-(n : Int), rest)
  | '+' :: rest => (number? rest.length rest).map fun (n, rest) => ((n : Int), rest)
  | cs => (number? 4 cs).map fun (n, rest) => ((n : Int), rest)

end DateText

open DateText in
/-- A date: year, month and day between dashes, each behind any blanks. -/
def isDate (s : String) : Bool :=
  let read : Option Bool := do
    let (year, rest) ← year? (trimFront s.toList)
    let (month, rest) ← number? 2 (trimFront (← char? '-' rest))
    let (day, rest) ← number? 2 (trimFront (← char? '-' rest))
    return rest.isEmpty && isDay year month day
  read.getD false

namespace DateText

/-- The fraction of a second, if a point starts one. -/
def fraction? (cs : List Char) : Option (List Char) :=
  match cs with
  | '.' :: rest =>
    let digits := rest.takeWhile Char.isDigit
    if digits.isEmpty then none else some (rest.drop digits.length)
  | cs => some cs

/-- Hours and minutes of a zone after its sign, less than a day. -/
def zoneSize? (cs : List Char) : Option (List Char) := do
  let (hours, rest) ← field? 2 cs
  let (minutes, rest) ← field? 2 (← char? ':' rest)
  if hours ≤ 23 ∧ minutes ≤ 59 then some rest else none

/-- The zone of a time: `Z`, or hours and minutes behind a sign. -/
def zone? (cs : List Char) : Option (List Char) :=
  match cs with
  | [] => none
  | c :: rest =>
    if c = 'Z' ∨ c = 'z' then some rest
    else if c = '+' ∨ c = '-' ∨ c = '\u2212' then zoneSize? rest
    else none

end DateText

open DateText in
/-- A date-time: date and time of day in fields of fixed length, seconds up to 60 with any fraction, and a
zone. -/
def isDateTime (s : String) : Bool :=
  let read : Option Bool := do
    let (year, rest) ← field? 4 s.toList
    let (month, rest) ← field? 2 (← char? '-' rest)
    let (day, rest) ← field? 2 (← char? '-' rest)
    let rest ← match rest with
      | c :: rest => if c = 'T' ∨ c = 't' ∨ c = ' ' then some rest else none
      | [] => none
    let (hour, rest) ← field? 2 rest
    let (minute, rest) ← field? 2 (← char? ':' rest)
    let (second, rest) ← field? 2 (← char? ':' rest)
    let rest ← zone? (← fraction? rest)
    return rest.isEmpty && isDay year month day && hour ≤ 23 && minute ≤ 59 && second ≤ 60
  read.getD false

end FormModel
