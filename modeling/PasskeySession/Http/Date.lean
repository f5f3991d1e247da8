import PasskeySession.Instant.Reader

/-! # Dates of the web

The instants that cookies name, in universal time, written in one of four forms. Each may begin with the name
of a day of the week, which is not compared with the date. A minute has sixty seconds. -/

namespace PasskeySession.HttpDate

open Instant (char number)

/-- The days of the week by their short names. -/
def weekdays : List String := ["Mon", "Tue", "Wed", "Thu", "Fri", "Sat", "Sun"]

/-- The days of the week by their full names. -/
def fullWeekdays : List String := ["Monday", "Tuesday", "Wednesday", "Thursday", "Friday", "Saturday", "Sunday"]

def months : List String := ["Jan", "Feb", "Mar", "Apr", "May", "Jun", "Jul", "Aug", "Sep", "Oct", "Nov", "Dec"]

def literal (text : String) (cs : List Char) : Option (List Char) :=
  if text.toList.isPrefixOf cs then some (cs.drop text.length) else none

/-- The place of the first of some names that a text begins with, counted from one. -/
def name (names : List String) (cs : List Char) : Option (Nat × List Char) := do
  let i ← names.findIdx? fun n => n.toList.isPrefixOf cs
  some (i + 1, cs.drop (names.getD i "").length)

/-- What follows the name of a day of the week and a mark, or the whole text if they are not there. -/
def skipWeekday (names : List String) (mark : String) (cs : List Char) : List Char :=
  ((name names cs).bind fun (_, rest) => literal mark rest).getD cs

/-- A year that is written with two digits is one of the years from 1970 to 2069. -/
def century (year : Int) : Int :=
  if year < 0 || 100 ≤ year then year else if year < 70 then year + 2000 else year + 1900

/-- A year of at most four digits, after an optional sign. -/
def year (cs : List Char) : Option (Int × List Char) :=
  match cs with
  | '-' :: cs => (number 1 4 cs).map fun (n, rest) => (century (-n), rest)
  | '+' :: cs => (number 1 4 cs).map fun (n, rest) => (century n, rest)
  | cs => (number 1 4 cs).map fun (n, rest) => (century n, rest)

def shortYear (cs : List Char) : Option (Int × List Char) :=
  (number 2 2 cs).map fun (n, rest) => (century n, rest)

/-- A day of two digits, or of one after a space. -/
def paddedDay : List Char → Option (Nat × List Char)
  | ' ' :: cs => number 1 1 cs
  | cs => number 2 2 cs

def time (cs : List Char) : Option ((Nat × Nat × Nat) × List Char) := do
  let (hour, cs) ← number 2 2 cs
  let cs ← char ':' cs
  let (minute, cs) ← number 2 2 cs
  let cs ← char ':' cs
  let (second, cs) ← number 2 2 cs
  some ((hour, minute, second), cs)

/-- The instant of a date and a time that end a text. -/
def finish (date : Date) (time : Nat × Nat × Nat) (rest : List Char) : Option Instant :=
  if time.2.2 < 60 then Instant.finish ⟨date, time.1, time.2.1, time.2.2, 0⟩ rest else none

/-- Day, month and year with a mark between, and the time, after the day of the week. -/
def dayFirst? (names : List String) (mark : Char) (year : List Char → Option (Int × List Char))
    (cs : List Char) : Option Instant := do
  let (day, cs) ← number 2 2 (skipWeekday names ", " cs)
  let cs ← char mark cs
  let (month, cs) ← name months cs
  let cs ← char mark cs
  let (year, cs) ← year cs
  let (time, cs) ← time (← char ' ' cs)
  finish ⟨year, month, day⟩ time (← literal " GMT" cs)

/-- Month, day, time and year, after the day of the week. -/
def monthFirst? (cs : List Char) : Option Instant := do
  let (month, cs) ← name months (skipWeekday weekdays " " cs)
  let (day, cs) ← paddedDay (← char ' ' cs)
  let (time, cs) ← time (← char ' ' cs)
  let (year, cs) ← year (← char ' ' cs)
  finish ⟨year, month, day⟩ time cs

/-- Reads a date in any of the four forms. -/
def ofChars? (cs : List Char) : Option Instant :=
  (dayFirst? weekdays ' ' year cs).or <| (dayFirst? fullWeekdays '-' shortYear cs).or <|
    (monthFirst? cs).or (dayFirst? weekdays '-' year cs)

end PasskeySession.HttpDate
