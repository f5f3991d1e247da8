import PasskeySession.Instant.Basic
import PasskeySession.Text.Blank

/-! # Reading instants

Two ways of writing an instant are read. The strict one has fields of fixed width and ends with a zone. The
loose one has no zone and is read as universal time; it allows short fields, white space before a field, and
years of any length after a sign. -/

namespace PasskeySession.Instant

/-- Reads at most `most` digits onto `n`, and gives the number of digits left unread of the most. -/
def scanDigits : (most : Nat) → (n : Nat) → List Char → Nat × Nat × List Char
  | 0, n, cs => (0, n, cs)
  | most + 1, n, [] => (most + 1, n, [])
  | most + 1, n, c :: cs =>
    if c.isDigit then scanDigits most (n * 10 + (c.toNat - 48)) cs else (most + 1, n, c :: cs)

/-- A number of at least `least` and at most `most` digits. -/
def number (least most : Nat) (cs : List Char) : Option (Nat × List Char) :=
  let (unread, n, rest) := scanDigits most 0 cs
  if least ≤ most - unread then some (n, rest) else none

def char (c : Char) : List Char → Option (List Char)
  | [] => none
  | d :: cs => if c = d then some cs else none

/-- The nanoseconds after a point: the first nine digits count, and all are read. -/
def fraction (cs : List Char) : Option (Nat × List Char) :=
  let (unread, n, rest) := scanDigits 9 0 cs
  if unread = 9 then none else some (n * Nat.pow 10 unread, rest.dropWhile Char.isDigit)

/-- The nanoseconds of a fraction that may be missing. -/
def optionalFraction : List Char → Option (Nat × List Char)
  | '.' :: cs => fraction cs
  | cs => some (0, cs)

/-! ### With a zone -/

/-- Hours and minutes of an offset, in seconds, of less than a day. -/
def offsetSize (cs : List Char) : Option (Int × List Char) := do
  let (hours, cs) ← number 2 2 cs
  let cs ← char ':' cs
  let (minutes, cs) ← number 2 2 cs
  if hours < 24 ∧ minutes < 60 then some (((hours * 60 + minutes) * 60 : Nat), cs) else none

/-- The zone: `Z`, or a sign and an offset. -/
def zone : List Char → Option (Int × List Char)
  | [] => none
  | c :: cs =>
    if c = 'Z' ∨ c = 'z' then some (0, cs)
    else if c = '+' then offsetSize cs
    else if c = '-' ∨ c = '\u2212' then (offsetSize cs).map fun (size, rest) => (-size, rest)
    else none

/-- Date, time and zone in fields of fixed width. -/
def strict? (cs : List Char) : Option Instant := do
  let (year, cs) ← number 4 4 cs
  let cs ← char '-' cs
  let (month, cs) ← number 2 2 cs
  let cs ← char '-' cs
  let (day, cs) ← number 2 2 cs
  let cs ← (char 'T' cs).or ((char 't' cs).or (char ' ' cs))
  let (hour, cs) ← number 2 2 cs
  let cs ← char ':' cs
  let (minute, cs) ← number 2 2 cs
  let cs ← char ':' cs
  let (second, cs) ← number 2 2 cs
  let (nanos, cs) ← optionalFraction cs
  let (offset, cs) ← zone cs
  let w : WallClock := ⟨⟨year, month, day⟩, hour, minute, second, nanos⟩
  if cs.isEmpty && w.valid then some (w.toInstant offset) else none

/-! ### Without a zone -/

/-- A field of at most two digits, after any white space. -/
def field (cs : List Char) : Option (Nat × List Char) := number 1 2 (cs.dropWhile Text.isBlank)

def longNumber (cs : List Char) : Option (Nat × List Char) := number 1 cs.length cs

/-- A year of at most four digits, or of any number of digits after a sign. -/
def yearField (cs : List Char) : Option (Int × List Char) :=
  match cs.dropWhile Text.isBlank with
  | '-' :: cs => (longNumber cs).map fun (n, rest) => (-n, rest)
  | '+' :: cs => (longNumber cs).map fun (n, rest) => (n, rest)
  | cs => (number 1 4 cs).map fun (n, rest) => (n, rest)

def dateFields (cs : List Char) : Option (Date × List Char) := do
  let (year, cs) ← yearField cs
  let cs ← char '-' cs
  let (month, cs) ← field cs
  let cs ← char '-' cs
  let (day, cs) ← field cs
  some (⟨year, month, day⟩, cs)

def minuteFields (cs : List Char) : Option (Nat × Nat × List Char) := do
  let (hour, cs) ← field cs
  let cs ← char ':' cs
  let (minute, cs) ← field cs
  some (hour, minute, cs)

/-- The instant of a time read to the end of its text. -/
def finish (w : WallClock) (rest : List Char) : Option Instant :=
  if rest.isEmpty && w.valid then some (w.toInstant 0) else none

/-- Date, `T`, and a time with seconds and an optional fraction. -/
def toTheSecond? (cs : List Char) : Option Instant := do
  let (date, cs) ← dateFields cs
  let cs ← char 'T' cs
  let (hour, minute, cs) ← minuteFields cs
  let cs ← char ':' cs
  let (second, cs) ← field cs
  let (nanos, cs) ← optionalFraction cs
  finish ⟨date, hour, minute, second, nanos⟩ cs

def toTheMinute? (cs : List Char) : Option Instant := do
  let (date, cs) ← dateFields cs
  let cs ← char 'T' cs
  let (hour, minute, cs) ← minuteFields cs
  finish ⟨date, hour, minute, 0, 0⟩ cs

/-- Date and time with seconds, with any white space between or none. -/
def spaced? (cs : List Char) : Option Instant := do
  let (date, cs) ← dateFields cs
  let (hour, minute, cs) ← minuteFields (cs.dropWhile Text.isBlank)
  let cs ← char ':' cs
  let (second, cs) ← field cs
  finish ⟨date, hour, minute, second, 0⟩ cs

def loose? (cs : List Char) : Option Instant :=
  (toTheSecond? cs).or ((toTheMinute? cs).or (spaced? cs))

def ofChars? (cs : List Char) : Option Instant := (strict? cs).or (loose? cs)

/-- Reads a text, without the white space around it. -/
def parse (text : String) : Except Fault Instant :=
  match ofChars? (Text.trim text.toList) with
  | some t => .ok t
  | none => .error (.timestamp text)

end PasskeySession.Instant
