/-! # Whole numbers in a text

A natural number below a bound is read from digits, with or without a plus sign. The first character that is
no digit or makes the number too large is the fault. -/

namespace PasskeySession.Text

/-- The least number that does not fit 64 bits. -/
def wordLimit : Nat := 0x10000000000000000

/-- Why a text is no natural number below the bound. -/
inductive IntegerFault
  | empty
  | badDigit
  | tooLarge
  deriving DecidableEq, Repr

namespace IntegerFault

def message : IntegerFault → String
  | empty => "cannot parse integer from empty string"
  | badDigit => "invalid digit found in string"
  | tooLarge => "number too large to fit in target type"

end IntegerFault

def digitsBelow (bound : Nat) : (n : Nat) → List Char → Except IntegerFault Nat
  | n, [] => .ok n
  | n, c :: cs =>
    if c.isDigit then
      let m := n * 10 + (c.toNat - 48)
      if m < bound then digitsBelow bound m cs else .error .tooLarge
    else .error .badDigit

def naturalBelow (bound : Nat) : List Char → Except IntegerFault Nat
  | [] => .error .empty
  | ['+'] => .error .badDigit
  | '+' :: cs => digitsBelow bound 0 cs
  | cs => digitsBelow bound 0 cs

end PasskeySession.Text
