import PasskeySession.Fault
import PasskeySession.Instant.Calendar

/-! # Instants

A point of time in universal time: whole seconds since 1970 and nanoseconds beyond them. A leap second has a
thousand million nanoseconds or more and counts as the second before it. -/

namespace PasskeySession

/-- A point of time. -/
structure Instant where
  /-- Whole seconds since the first of January 1970, rounded down. -/
  seconds : Int
  /-- Nanoseconds beyond them; a thousand million or more within a leap second. -/
  nanos : Nat
  deriving DecidableEq, Repr

/-- What a clock on a wall shows, with the date. -/
structure WallClock where
  date : Date
  hour : Nat
  minute : Nat
  second : Nat
  nanos : Nat
  deriving DecidableEq, Repr

namespace WallClock

def yearInRange (year : Int) : Bool := -262143 ≤ year && year ≤ 262142

/-- A real date and time; a sixtieth second is allowed in any minute. -/
def valid (w : WallClock) : Bool :=
  yearInRange w.date.year && w.date.valid && w.hour < 24 && w.minute < 60 && w.second ≤ 60

/-- The instant at which a clock that is `offset` seconds ahead of universal time shows this. -/
def toInstant (w : WallClock) (offset : Int) : Instant :=
  let second := min w.second 59
  ⟨w.date.toDays * 86400 + (w.hour * 3600 + w.minute * 60 + second : Nat) - offset,
    if w.second = 60 then w.nanos + 1000000000 else w.nanos⟩

end WallClock

namespace Instant

def toWallClock (t : Instant) : WallClock :=
  let inDay := (t.seconds % 86400).toNat
  ⟨Date.ofDays (t.seconds / 86400), inDay / 3600, inDay / 60 % 60,
    inDay % 60 + t.nanos / 1000000000, t.nanos % 1000000000⟩

end Instant
end PasskeySession
