/-! # The calendar

The Gregorian calendar, extended to all years, as a count of days. Day nought is the first of January
1970. -/

namespace PasskeySession

/-- A day of the calendar. -/
structure Date where
  year : Int
  month : Nat
  day : Nat
  deriving DecidableEq, Repr

namespace Date

/-- Every fourth year is a leap year, save the centuries that four hundred does not divide. -/
def isLeapYear (year : Int) : Bool := year % 4 == 0 && (year % 100 != 0 || year % 400 == 0)

def monthLengths (year : Int) : List Nat :=
  [31, if isLeapYear year then 29 else 28, 31, 30, 31, 30, 31, 31, 30, 31, 30, 31]

/-- A month of the year and a day of that month. -/
def valid (d : Date) : Bool :=
  1 ≤ d.month && d.month ≤ 12 && 1 ≤ d.day && d.day ≤ (monthLengths d.year).getD (d.month - 1) 0

/-- Days from the first of January of year one to the first of January of a year. -/
def daysBeforeYear (year : Int) : Int :=
  let y := year - 1
  y * 365 + y / 4 - y / 100 + y / 400

def daysBeforeMonth (year : Int) (month : Nat) : Nat :=
  ((monthLengths year).take (month - 1)).foldl (· + ·) 0

/-- Days from the first of January of year one to the first of January 1970. -/
def epoch : Int := 719162

def toDays (d : Date) : Int :=
  daysBeforeYear d.year + daysBeforeMonth d.year d.month + (d.day - 1 : Nat) - epoch

/-- The month, and the day of it, that a day of the year falls on. -/
def monthOfDay : (month rest : Nat) → List Nat → Nat × Nat
  | month, rest, [] => (month, rest + 1)
  | month, rest, length :: lengths =>
    if rest < length then (month, rest + 1) else monthOfDay (month + 1) (rest - length) lengths

def ofDays (days : Int) : Date :=
  let n := days + epoch
  let cycle := n / 146097
  let inCycle := (n % 146097).toNat
  let century := min (inCycle / 36524) 3
  let inCentury := inCycle - century * 36524
  let olympiad := inCentury / 1461
  let inOlympiad := inCentury - olympiad * 1461
  let single := min (inOlympiad / 365) 3
  let year := cycle * 400 + (century * 100 + olympiad * 4 + single : Nat) + 1
  let (month, day) := monthOfDay 1 (inOlympiad - single * 365) (monthLengths year)
  ⟨year, month, day⟩

end Date
end PasskeySession
