import BrokerFleet.Text.Blank
import BrokerFleet.Text.Number

/-! # Points in time

Time stamps are read in the form of RFC 3339 with some liberties: blanks may stand between the
parts, numbers may have fewer digits, a year with a sign may have more, and the offset may be
written without a colon or be `UTC`. They are written in universal time to the second. -/

namespace BrokerFleet

/-- A point in time, in seconds since the start of 1970 in universal time. A leap second counts as
the second before it. -/
structure Timestamp where
  seconds : Int
  leap : Bool := false
  deriving DecidableEq, Repr

namespace Timestamp

/-- Days from the start of 1970 to a date of the Gregorian calendar, by years that begin in
March. -/
def daysOfDate (year : Int) (month day : Nat) : Int :=
  let y := if month ≤ 2 then year - 1 else year
  let era := y.fdiv 400
  let yearOfEra := y - era * 400
  let shifted : Int := (month + 9) % 12
  let dayOfYear := (153 * shifted + 2).fdiv 5 + day - 1
  let dayOfEra := yearOfEra * 365 + yearOfEra.fdiv 4 - yearOfEra.fdiv 100 + dayOfYear
  era * 146097 + dayOfEra - 719468

/-- The year, month and day of a day counted from the start of 1970. -/
def dateOfDays (days : Int) : Int × Nat × Nat :=
  let z := days + 719468
  let era := z.fdiv 146097
  let dayOfEra := z - era * 146097
  let yearOfEra :=
    (dayOfEra - dayOfEra.fdiv 1460 + dayOfEra.fdiv 36524 - dayOfEra.fdiv 146096).fdiv 365
  let dayOfYear := dayOfEra - (365 * yearOfEra + yearOfEra.fdiv 4 - yearOfEra.fdiv 100)
  let shifted := (5 * dayOfYear + 2).fdiv 153
  let day := dayOfYear - (153 * shifted + 2).fdiv 5 + 1
  let month := if shifted < 10 then shifted + 3 else shifted - 9
  let year := yearOfEra + era * 400 + if month ≤ 2 then 1 else 0
  (year, month.toNat, day.toNat)

def isLeap (year : Int) : Bool := year % 4 == 0 && (year % 100 != 0 || year % 400 == 0)

def daysInMonth (year : Int) (month : Nat) : Nat :=
  if month = 2 then if isLeap year then 29 else 28
  else if month = 4 ∨ month = 6 ∨ month = 9 ∨ month = 11 then 30 else 31

def minYear : Int := -262143

def maxYear : Int := 262142

/-! ## Reading -/

/-- A text without the blanks at its start. -/
def skipBlanks (text : List Char) : List Char := text.dropWhile Text.isBlank

def digits? (text : List Char) : Option (Nat × List Char) :=
  let digits := text.takeWhile Text.isDigit
  if digits = [] then none else some (Text.digitsValue 0 digits, text.drop digits.length)

/-- A number of at most so many digits after blanks, and what follows it. -/
def number? (width : Nat) (text : List Char) : Option (Nat × List Char) := do
  let text := skipBlanks text
  let (n, rest) ← digits? (text.take width)
  some (n, rest ++ text.drop width)

/-- A text without a character at its start, which may stand after blanks. -/
def dropSign? (c : Char) (text : List Char) : Option (List Char) :=
  match skipBlanks text with
  | d :: rest => if d = c then some rest else none
  | [] => none

/-- A year of at most four digits, or of any number of them after a sign. -/
def year? (text : List Char) : Option (Int × List Char) :=
  match skipBlanks text with
  | '-' :: rest => (digits? rest).map fun p => (-(p.1 : Int), p.2)
  | '+' :: rest => (digits? rest).map fun p => ((p.1 : Int), p.2)
  | text => (number? 4 text).map fun p => ((p.1 : Int), p.2)

/-- A text without its fraction of a second, if it starts with one. -/
def dropFraction? : List Char → Option (List Char)
  | '.' :: rest => (digits? rest).map (·.2)
  | text => some text

/-- A number of two digits, and what follows it. -/
def twoDigits? : List Char → Option (Nat × List Char)
  | a :: b :: rest =>
    if Text.isDigit a ∧ Text.isDigit b then some (Text.digitsValue 0 [a, b], rest) else none
  | _ => none

/-- Hours and minutes in seconds, with or without colons and blanks between them, and what
follows. -/
def hoursMinutes? (text : List Char) : Option (Int × List Char) := do
  let (hours, rest) ← twoDigits? text
  let (minutes, rest) ← twoDigits? (rest.dropWhile fun c => c == ':' || Text.isBlank c)
  if hours > 23 ∨ minutes > 59 then none else some (hours * 3600 + minutes * 60, rest)

/-- The offset from universal time in seconds, and what follows it. -/
def offset? (text : List Char) : Option (Int × List Char) :=
  if (text.take 3).map Char.toUpper = ['U', 'T', 'C'] then some (0, text.drop 3)
  else match text with
    | [] => none
    | sign :: rest =>
      if sign = 'Z' ∨ sign = 'z' then some (0, rest)
      else if sign = '+' then hoursMinutes? rest
      else if sign = '-' ∨ sign = '\u2212' then (hoursMinutes? rest).map fun p => (-p.1, p.2)
      else none

/-- A date as a number of days since the start of 1970, and what follows it. -/
def date? (text : List Char) : Option (Int × List Char) := do
  let (year, rest) ← year? text
  let (month, rest) ← dropSign? '-' rest >>= number? 2
  let (day, rest) ← dropSign? '-' rest >>= number? 2
  if year < minYear ∨ year > maxYear ∨ month = 0 ∨ month > 12 ∨
      day = 0 ∨ day > daysInMonth year month
  then none
  else some (daysOfDate year month day, rest)

/-- A time of the day in seconds, whether it is a leap second, and what follows it. -/
def time? (text : List Char) : Option (Nat × Bool × List Char) := do
  let (hour, rest) ← number? 2 text
  let (minute, rest) ← dropSign? ':' rest >>= number? 2
  let (second, rest) ← dropSign? ':' rest >>= number? 2
  if hour > 23 ∨ minute > 59 ∨ second > 60 then none
  else some (hour * 3600 + minute * 60 + min second 59, second == 60, ← dropFraction? rest)

def parse? (text : String) : Option Timestamp := do
  let (days, rest) ← date? text.toList
  let (seconds, leap, rest) ← match rest with
    | 'T' :: rest | 't' :: rest | ' ' :: rest => time? rest
    | _ => none
  let (offset, rest) ← offset? (skipBlanks rest)
  let t := days * 86400 + seconds - offset
  if skipBlanks rest = [] ∧ daysOfDate minYear 1 1 ≤ t.fdiv 86400 ∧
      t.fdiv 86400 ≤ daysOfDate maxYear 12 31 then
    some ⟨t, leap⟩
  else none

/-! ## Writing -/

/-- The text of a year: four digits, or a sign and at least four when they do not suffice. -/
def renderYear (year : Int) : List Char :=
  let digits := Text.padded 10 4 year.natAbs
  if year < 0 then '-' :: digits else if year > 9999 then '+' :: digits else digits

def render (t : Timestamp) : String :=
  let days := t.seconds.fdiv 86400
  let time := (t.seconds - days * 86400).toNat
  let (year, month, day) := dateOfDays days
  let two := fun n => Text.padded 10 2 n
  String.ofList (renderYear year ++ '-' :: two month ++ '-' :: two day ++ 'T' ::
    two (time / 3600) ++
    ':' :: two (time % 3600 / 60) ++ ':' :: two (time % 60 + t.leap.toNat) ++ ['Z'])

example : (parse? "2024-01-02T03:04:05Z").map render = some "2024-01-02T03:04:05Z" := by
  decide +kernel

example : (parse? "2024-03-01T01:30:00.25+02:00").map render = some "2024-02-29T23:30:00Z" := by
  decide +kernel

example : (parse? "2024 - 6-30 23:59:60 utc").map render = some "2024-06-30T23:59:60Z" := by
  decide +kernel

end Timestamp

end BrokerFleet
