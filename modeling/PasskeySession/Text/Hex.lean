/-! # Hexadecimal digits

Bytes are written as two hexadecimal digits each, in lower case, and read from digits of either case.
Main statement: `ofHex? (toHex bs) = some bs`. -/

namespace PasskeySession

abbrev Bytes := List UInt8

namespace Text

/-- The digit that stands for a number below sixteen, in lower case. -/
def hexDigit (n : Nat) : Char := Nat.digitChar n

/-- The number that a hexadecimal digit of either case stands for. -/
def hexValue? (c : Char) : Option Nat :=
  let n := c.toNat
  if 48 ≤ n ∧ n ≤ 57 then some (n - 48)
  else if 97 ≤ n ∧ n ≤ 102 then some (n - 87)
  else if 65 ≤ n ∧ n ≤ 70 then some (n - 55)
  else none

/-- Two digits for each byte, the high half first. -/
def toHex : Bytes → List Char
  | [] => []
  | b :: bs => hexDigit (b.toNat / 16) :: hexDigit (b.toNat % 16) :: toHex bs

/-- Reads pairs of digits; an odd digit or any other character is refused. -/
def ofHex? : List Char → Option Bytes
  | [] => some []
  | [_] => none
  | a :: b :: cs =>
    match hexValue? a, hexValue? b, ofHex? cs with
    | some hi, some lo, some bs => some (UInt8.ofNat (hi * 16 + lo) :: bs)
    | _, _, _ => none

/-- The digits of a number in base sixteen, without leading zeros. -/
def hexNumeral (n : Nat) : List Char := Nat.toDigits 16 n

theorem hexValue?_hexDigit : ∀ n < 16, hexValue? (hexDigit n) = some n := by decide

theorem ofHex?_toHex (bs : Bytes) : ofHex? (toHex bs) = some bs := by
  induction bs with
  | nil => rfl
  | cons b bs ih =>
    have hb : b.toNat < 256 := b.toNat_lt
    have hhi := hexValue?_hexDigit (b.toNat / 16) (by omega)
    have hlo := hexValue?_hexDigit (b.toNat % 16) (by omega)
    have hsum : b.toNat / 16 * 16 + b.toNat % 16 = b.toNat := by omega
    simp [toHex, ofHex?, hhi, hlo, ih, hsum]

theorem length_toHex (bs : Bytes) : (toHex bs).length = 2 * bs.length := by
  induction bs with
  | nil => rfl
  | cons b bs ih => simp [toHex, ih]; omega

end Text
end PasskeySession
