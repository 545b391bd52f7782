/-
Dates in HTTP headers.

`HttpDate.parse?` reads the four forms in which cookies have been written: with names of days and
months in English, all in universal time. The day of the week may be left out and need not be the
right one. A year below 100 is one of the years from 1969 to 2068.
`HttpDate.text` writes the first of the forms.
-/
import WebLogin.Timestamp

namespace WebLogin

namespace Http

/-- A second of the calendar. -/
structure HttpDate where
  /-- The year. -/
  year : Int
  /-- The month, from 1 to 12. -/
  month : Nat
  /-- The day of the month, from 1. -/
  day : Nat
  /-- The hour. -/
  hour : Nat
  /-- The minute. -/
  minute : Nat
  /-- The second. -/
  second : Nat
  deriving DecidableEq, Repr

namespace HttpDate

/-- The names of the days of a week. -/
def dayNames : List String :=
  ["Sunday", "Monday", "Tuesday", "Wednesday", "Thursday", "Friday", "Saturday"]

/-- The short names of the months. -/
def monthNames : List String :=
  ["Jan", "Feb", "Mar", "Apr", "May", "Jun", "Jul", "Aug", "Sep", "Oct", "Nov", "Dec"]

/-- The short form of a name. -/
def short (name : String) : String := String.ofList (name.toList.take 3)

/-! ### The calendar -/

/-- Whether a year has a 29 February. -/
def isLeap (year : Int) : Bool :=
  year % 4 = 0 && (year % 100 ≠ 0 || year % 400 = 0)

/-- How many days a month has. -/
def daysIn (year : Int) (month : Nat) : Nat :=
  if month = 2 then (if isLeap year then 29 else 28)
  else if month = 4 || month = 6 || month = 9 || month = 11 then 30
  else 31

/-- Whether the calendar has the second. -/
def isValid (d : HttpDate) : Bool :=
  1 ≤ d.month && d.month ≤ 12 && 1 ≤ d.day && d.day ≤ daysIn d.year d.month && d.hour < 24 &&
    d.minute < 60 && d.second < 60

/-- The number of a day, counted from 1 March of the year 0. -/
def dayNumber (d : HttpDate) : Int :=
  let year := if d.month ≤ 2 then d.year - 1 else d.year
  let fromMarch := (d.month + 9) % 12
  365 * year + year / 4 - year / 100 + year / 400 + ((153 * fromMarch + 2) / 5 : Nat) + d.day - 1

/-- The number of 1 January 1970. -/
def epochDay : Int := 719468

/-- The date of a moment. -/
def ofTimestamp (t : Timestamp) : HttpDate :=
  let day := t.seconds / 86400 + epochDay
  let rest := (t.seconds % 86400).toNat
  let era := day / 146097
  let dayOfEra := (day % 146097).toNat
  let yearOfEra := (dayOfEra - dayOfEra / 1460 + dayOfEra / 36524 - dayOfEra / 146096) / 365
  let dayOfYear := dayOfEra - (365 * yearOfEra + yearOfEra / 4 - yearOfEra / 100)
  let fromMarch := (5 * dayOfYear + 2) / 153
  let month := if fromMarch < 10 then fromMarch + 3 else fromMarch - 9
  { year := era * 400 + yearOfEra + (if month ≤ 2 then 1 else 0)
    month
    day := dayOfYear - (153 * fromMarch + 2) / 5 + 1
    hour := rest / 3600
    minute := rest / 60 % 60
    second := rest % 60 }

/-- The name of the day of the week. -/
def dayName (d : HttpDate) : String := dayNames.getD ((d.dayNumber + 3) % 7).toNat ""

/-! ### Writing -/

/-- A number of two digits. -/
def twoDigits (n : Nat) : String := if n < 10 then "0" ++ toString n else toString n

/-- The date as headers carry it. -/
def text (d : HttpDate) : String :=
  short d.dayName ++ ", " ++ twoDigits d.day ++ " " ++ monthNames.getD (d.month - 1) "" ++ " " ++
    toString d.year ++ " " ++ twoDigits d.hour ++ ":" ++ twoDigits d.minute ++ ":" ++
    twoDigits d.second ++ " GMT"

/-! ### Reading -/

/-- A reader of the start of a text. -/
abbrev Scan := StateT (List Char) Option

/-- Takes a given text. -/
def literal (s : String) : Scan Unit := fun cs =>
  if s.toList.isPrefixOf cs then some ((), cs.drop s.length) else none

/-- Takes one of some names and gives its place among them. -/
def oneOf (names : List String) : Scan Nat := fun cs =>
  (names.findIdx? fun n => n.toList.isPrefixOf cs).map fun i =>
    (i, cs.drop (names.getD i "").length)

/-- Takes as many digits as there are, between two counts, and gives their number. -/
def number (least most : Nat) : Scan Nat := fun cs =>
  let digits := (cs.take most).takeWhile Char.isDigit
  if digits.length < least then none
  else some (digits.foldl (fun n c => n * 10 + (c.toNat - '0'.toNat)) 0, cs.drop digits.length)

/-- Takes a day with a blank in place of a leading zero. -/
def paddedDay : Scan Nat := fun cs =>
  match cs with
  | ' ' :: rest => number 1 1 rest
  | _ => number 2 2 cs

/-- Takes a year with a sign or none. -/
def signedYear : Scan Int := fun cs =>
  match cs with
  | '-' :: rest => (number 1 4 rest).map fun (n, rest) => (-(n : Int), rest)
  | '+' :: rest => (number 1 4 rest).map fun (n, rest) => ((n : Int), rest)
  | _ => (number 1 4 cs).map fun (n, rest) => ((n : Int), rest)

/-- The year that a number stands for. -/
def fullYear (y : Int) : Int :=
  if 0 ≤ y && y ≤ 68 then y + 2000
  else if 69 ≤ y && y ≤ 99 then y + 1900
  else y

/-- Takes hours, minutes and seconds. -/
def clock : Scan (Nat × Nat × Nat) := do
  let hour ← number 2 2
  literal ":"
  let minute ← number 2 2
  literal ":"
  return (hour, minute, ← number 2 2)

/-- The date of its parts. -/
def build (year : Int) (month day : Nat) (time : Nat × Nat × Nat) : HttpDate :=
  ⟨fullYear year, month + 1, day, time.1, time.2.1, time.2.2⟩

/-- Takes what a reader takes, or nothing where it fails. -/
def optionally (s : Scan Unit) : Scan Unit := s <|> pure ()

/-- Takes the day of the week, by one of some names, and what stands after it, or neither. -/
def weekday (names : List String) (after : String) : Scan Unit := optionally do
  let _ ← oneOf names
  literal after

/-- Takes day, month, year and time with a separator between the first three, perhaps after the
day of the week. -/
def dayFirst (names : List String) (sep : String) (year : Scan Int) : Scan HttpDate := do
  weekday names ", "
  let day ← number 2 2
  literal sep
  let month ← oneOf monthNames
  literal sep
  let year ← year
  literal " "
  let time ← clock
  literal " GMT"
  return build year month day time

/-- Takes month, day, time and year, perhaps after the day of the week. -/
def monthFirst : Scan HttpDate := do
  weekday (dayNames.map short) " "
  let month ← oneOf monthNames
  literal " "
  let day ← paddedDay
  literal " "
  let time ← clock
  literal " "
  return build (← signedYear) month day time

/-- The forms of a date in the order in which they are tried. -/
def forms : List (Scan HttpDate) :=
  [dayFirst (dayNames.map short) " " signedYear,
   dayFirst dayNames "-" (do return ((← number 2 2 : Nat) : Int)),
   monthFirst,
   dayFirst (dayNames.map short) "-" signedYear]

/-- The date of a text that is in a form, if the calendar has it. -/
def inForm (form : Scan HttpDate) (s : String) : Option HttpDate :=
  match form.run s.toList with
  | some (d, []) => if d.isValid then some d else none
  | _ => none

/-- Reads a date. -/
def parse? (s : String) : Option HttpDate := forms.findSome? (inForm · s)

end HttpDate

end Http

end WebLogin
