import PasskeySession.Amount.Decimal

/-! # Base units

The whole number of the smallest units of a token. An amount of a token with `d` decimals is a number of
base units exactly when it has at most `d` digits after the point. -/

namespace PasskeySession

/-- A number of the smallest units of a token. -/
structure BaseUnits where
  count : Nat
  deriving DecidableEq, Inhabited

namespace BaseUnits

def text (u : BaseUnits) : String := toString u.count

/-- The text with the name of its type around it. -/
def debugText (u : BaseUnits) : String := "BaseUnits(" ++ u.text ++ ")"

/-- The amount that so many units of `10 ^ -decimals` make. -/
def toDecimal (u : BaseUnits) (decimals : Nat) : DecimalAmount :=
  DecimalAmount.ofScaled u.count decimals

end BaseUnits

namespace DecimalAmount

def nativeDecimals : Nat := 18

/-- The amount as base units; refused when it has a digit that is worth less than one unit. -/
def toBaseUnits (a : DecimalAmount) (decimals : Nat) : Except Fault BaseUnits :=
  if a.scale ≤ decimals then .ok ⟨a.units * Nat.pow 10 (decimals - a.scale)⟩
  else .error (.precision a.text decimals)

end DecimalAmount
end PasskeySession
