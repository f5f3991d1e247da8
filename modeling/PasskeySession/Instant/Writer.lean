import PasskeySession.Instant.Basic
import PasskeySession.Amount.Decimal

/-! # Writing instants

An instant is written by date and time of universal time with the offset `+00:00`, and with three, six or
nine digits of a second if fewer do not do. -/

namespace PasskeySession.Instant

def digits (length n : Nat) : String := String.ofList (DecimalAmount.padded length n)

/-- Four digits, or a sign and at least four for a year before the year nought or after 9999. -/
def yearText (year : Int) : String :=
  if 0 ≤ year ∧ year ≤ 9999 then digits 4 year.toNat
  else (if year < 0 then "-" else "+") ++ digits 4 year.natAbs

/-- The digits of a second, in groups of three. -/
def fractionText (nanos : Nat) : String :=
  if nanos = 0 then ""
  else if nanos % 1000000 = 0 then "." ++ digits 3 (nanos / 1000000)
  else if nanos % 1000 = 0 then "." ++ digits 6 (nanos / 1000)
  else "." ++ digits 9 nanos

def text (t : Instant) : String :=
  let w := t.toWallClock
  yearText w.date.year ++ "-" ++ digits 2 w.date.month ++ "-" ++ digits 2 w.date.day ++ "T" ++
    digits 2 w.hour ++ ":" ++ digits 2 w.minute ++ ":" ++ digits 2 w.second ++ fractionText w.nanos ++ "+00:00"

end PasskeySession.Instant
