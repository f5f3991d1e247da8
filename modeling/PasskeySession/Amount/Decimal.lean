import PasskeySession.Fault
import PasskeySession.Text.Blank

/-! # Decimal amounts

An amount is a natural number of units of `10 ^ -scale`, with the least scale that can write it, so two
amounts are equal exactly when they denote the same number. Reading accepts ASCII digits with at most one
point and at least one digit; writing gives the shortest digits. -/

namespace PasskeySession

/-- A non-negative decimal number in lowest decimal terms. -/
@[ext] structure DecimalAmount where
  /-- The number without its point. -/
  units : Nat
  /-- How many of the digits stand after the point. -/
  scale : Nat
  /-- The last digit after the point is not zero. -/
  shortest : scale = 0 ∨ units % 10 ≠ 0
  deriving DecidableEq

namespace DecimalAmount

def reduce (units : Nat) : (scale : Nat) → Nat × Nat
  | 0 => (units, 0)
  | scale + 1 => if units % 10 = 0 then reduce (units / 10) scale else (units, scale + 1)

theorem reduce_shortest (units scale : Nat) :
    (reduce units scale).2 = 0 ∨ (reduce units scale).1 % 10 ≠ 0 := by
  induction scale generalizing units with
  | zero => exact Or.inl rfl
  | succ scale ih =>
    rw [reduce]
    split
    · exact ih (units / 10)
    · rename_i h
      exact Or.inr h

def ofScaled (units scale : Nat) : DecimalAmount where
  units := (reduce units scale).1
  scale := (reduce units scale).2
  shortest := reduce_shortest units scale

def zero : DecimalAmount := ⟨0, 0, Or.inl rfl⟩

instance : Inhabited DecimalAmount := ⟨zero⟩

def isZero (a : DecimalAmount) : Bool := a.units == 0

/-- The text before the first point, and the text after it. -/
def splitPoint (cs : List Char) : List Char × List Char :=
  (cs.takeWhile (· != '.'), (cs.dropWhile (· != '.')).drop 1)

/-- The number that digits before and after a point write. -/
def ofDigits (whole fraction : List Char) : DecimalAmount :=
  ofScaled (Nat.ofDigitChars 10 (whole ++ fraction) 0) fraction.length

/-- Reads digits with at most one point among or around them. -/
def ofChars? (cs : List Char) : Option DecimalAmount :=
  let (whole, fraction) := splitPoint cs
  if whole.isEmpty && fraction.isEmpty then none
  else if whole.all Char.isDigit && fraction.all Char.isDigit then some (ofDigits whole fraction)
  else none

/-- Reads a text, without the white space around it. -/
def parse (text : String) : Except Fault DecimalAmount :=
  match ofChars? (Text.trim text.toList) with
  | some a => .ok a
  | none => .error (.decimal text)

/-- The digits of a number, padded with zeros on the left to a given length. -/
def padded (length n : Nat) : List Char :=
  let digits := Nat.toDigits 10 n
  List.replicate (length - digits.length) '0' ++ digits

/-- The digits of an amount, without a point when the fraction is nought. -/
def chars (a : DecimalAmount) : List Char :=
  let digits := padded (a.scale + 1) a.units
  let point := digits.length - a.scale
  if a.scale = 0 then digits else digits.take point ++ '.' :: digits.drop point

def text (a : DecimalAmount) : String := String.ofList a.chars

/-- The text of an amount with the name of its type around it. -/
def debugText (a : DecimalAmount) : String := "DecimalAmount(" ++ a.text ++ ")"

end DecimalAmount
end PasskeySession
