/-! # Labels in ASCII

A label with characters beyond ASCII is written in ASCII as its ASCII characters, a hyphen, and where the other
characters stand among them, the lower ones first: each by the number of steps from the one before, where a
step goes to the next place or, after the last place, to the first place of the next character. A number of
steps is written in digits of base 36, the lowest digit first. It ends with a digit below a threshold, and the
thresholds follow the size of the numbers before, so that a number of their size is short. -/

namespace PasskeySession.Punycode

def digitValue? (c : Char) : Option Nat :=
  if c.isLower then some (c.toNat - 97)
  else if c.isUpper then some (c.toNat - 65)
  else if c.isDigit then some (c.toNat - 22)
  else none

/-- The digit that stands for a number below 36. -/
def digit (n : Nat) : Char := Char.ofNat (if n < 26 then n + 97 else n + 22)

/-- The number from which on a digit in a place does not end its number. -/
def threshold (bias place : Nat) : Nat := min (max (place - bias) 1) 26

def limit : Nat := 0xFFFFFFFF

/-- How often a number is divided by 35 until it is small, and what is left of it. -/
def shrink : (fuel : Nat) → (times n : Nat) → Nat × Nat
  | 0, times, n => (times, n)
  | fuel + 1, times, n => if 455 < n then shrink fuel (times + 1) (n / 35) else (times, n)

/-- The bias after a number of steps among so many characters. -/
def adapt (steps count : Nat) (first : Bool) : Nat :=
  let n := if first then steps / 700 else steps / 2
  let (times, n) := shrink 8 0 (n + n / count)
  36 * times + 36 * n / (n + 38)

/-! ### Reading -/

/-- A number of steps and the digits after it, from a place with a weight on. -/
def steps? (bias : Nat) : (place weight n : Nat) → List Char → Option (Nat × List Char)
  | _, _, _, [] => none
  | place, weight, n, c :: cs =>
    match digitValue? c with
    | none => none
    | some d =>
      let n := n + d * weight
      let t := threshold bias place
      if limit < n then none
      else if d < t then some (n, cs)
      else if limit < weight * (36 - t) then none
      else steps? bias (place + 36) (weight * (36 - t)) n cs

/-- Puts characters in their places, from a character and a place on. -/
def insertAll? : (fuel : Nat) → (bias code place : Nat) → (chars digits : List Char) → Option (List Char)
  | _, _, _, _, chars, [] => some chars
  | 0, _, _, _, _, _ => none
  | fuel + 1, bias, code, place, chars, digits => do
    let (steps, rest) ← steps? bias 36 1 0 digits
    let count := chars.length + 1
    let n := place + steps
    let code := code + n / count
    if code.isValidChar then
      insertAll? fuel (adapt steps count (place == 0)) code (n % count + 1)
        (chars.insertIdx (n % count) (Char.ofNat code)) rest
    else none

def decode? (cs : List Char) : Option (List Char) :=
  let digits := (cs.reverse.takeWhile (· != '-')).reverse
  if digits.length = cs.length then insertAll? cs.length 72 128 0 [] cs
  else
    let chars := cs.take (cs.length - digits.length - 1)
    if chars.isEmpty then none else insertAll? cs.length 72 128 0 chars digits

/-! ### Writing -/

/-- The digits of a number of steps, from a place on. -/
def digits (bias : Nat) : (fuel : Nat) → (place n : Nat) → List Char
  | 0, _, _ => []
  | fuel + 1, place, n =>
    let t := threshold bias place
    if n < t then [digit n]
    else digit (t + (n - t) % (36 - t)) :: digits bias fuel (place + 36) ((n - t) / (36 - t))

/-- A label that is being written. -/
structure Draft where
  digits : List Char
  /-- The steps since the last character that has been written. -/
  steps : Nat
  bias : Nat
  /-- How many characters have been written. -/
  count : Nat
  /-- Whether all of them are of ASCII. -/
  first : Bool

/-- Goes over the label for a character: past the lower ones a step each, and it is written where it stands. -/
def pass (code : Nat) (d : Draft) : List Char → Draft
  | [] => d
  | c :: cs =>
    if c.toNat < code then pass code { d with steps := d.steps + 1 } cs
    else if c.toNat = code then
      pass code ⟨d.digits ++ digits d.bias 32 36 d.steps, 0, adapt d.steps (d.count + 1) d.first, d.count + 1,
        false⟩ cs
    else pass code d cs

/-- Goes over the label for one character after the other, the lower ones first, beginning at `code`. -/
def passes (cs : List Char) : (code : Nat) → Draft → List Nat → Draft
  | _, d, [] => d
  | code, d, next :: codes =>
    let d := pass next { d with steps := d.steps + (next - code) * (d.count + 1) } cs
    passes cs (next + 1) { d with steps := d.steps + 1 } codes

def encode (cs : List Char) : List Char :=
  let ascii := cs.filter (·.toNat < 0x80)
  let codes := (((cs.map Char.toNat).filter (0x80 ≤ ·)).mergeSort).eraseDups
  ascii ++ (if ascii.isEmpty then [] else ['-']) ++
    (passes cs 128 ⟨[], 0, 72, ascii.length, true⟩ codes).digits

end PasskeySession.Punycode
