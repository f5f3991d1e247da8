import PasskeySession.Amount.BaseUnits
import PasskeySession.Identifier
import PasskeySession.Instant.Reader
import PasskeySession.Instant.Writer
import PasskeySession.Json.Decoder

/-! # Single values in JSON

Amounts, identifiers and instants are strings. An amount may also be a number, which is read digit by digit
as it is written; an exponent of at most 1024 moves its point. -/

namespace PasskeySession

namespace Numeral

/-- The largest power of ten that moves the point of an amount. -/
def largestPower : Nat := 1024

def head (n : Numeral) : List Char := (if n.negative then ['-'] else []) ++ n.whole

/-- The characters of a mantissa after its point is moved; a sign moves like a digit. -/
def shifted (n : Numeral) (point : Int) : List Char :=
  let digits := n.head ++ n.fraction
  if point ≤ 0 then '0' :: '.' :: List.replicate point.natAbs '0' ++ digits
  else if digits.length ≤ point.toNat then digits ++ List.replicate (point.toNat - digits.length) '0'
  else digits.take point.toNat ++ '.' :: digits.drop point.toNat

/-- The numeral without its exponent, unless that is too large. -/
def positional (n : Numeral) : List Char :=
  match n.exponent with
  | none => n.chars
  | some e =>
    let size := Nat.ofDigitChars 10 e.digits 0
    if largestPower < size then n.chars
    else n.shifted (n.head.length + if e.negative then -(size : Int) else size)

end Numeral

namespace DecimalAmount

def toJson (a : DecimalAmount) : Json := .string a.text

/-- The amount of a text, as a step of reading JSON. -/
def decodeText (s : String) : Except DecodeError DecimalAmount :=
  (parse s).mapError fun f => .refused (.fault f)

def ofJson : Json → Except DecodeError DecimalAmount
  | .string s => decodeText s
  | .number n => decodeText (String.ofList n.positional)
  | v => .error (.refused (.notAmount v))

def decoder : Json.Decoder DecimalAmount := Json.Decoder.value.andThen ofJson

end DecimalAmount

namespace BaseUnits

def toJson (u : BaseUnits) : Json := .string u.text

end BaseUnits

namespace Word

def toJson {n : Nat} (w : Word n) : Json := .string w.text

end Word

namespace Address

def decoder : Json.Decoder Address := Json.Decoder.text parse

end Address

namespace OperationHash

def decoder : Json.Decoder OperationHash := Json.Decoder.text parse

end OperationHash

namespace Selector

def decoder : Json.Decoder Selector := Json.Decoder.text parse

end Selector

namespace Instant

/-- A bound of time that may be open, in JSON. -/
def boundToJson (bound : Option Instant) : Json := .ofString? (bound.map text)

/-- The bound that a text gives; a blank one leaves it open. -/
def boundOfText (s : String) : Except Fault (Option Instant) :=
  if Text.blank s.toList then .ok none else (parse s).map some

/-- Reads a bound of time; null leaves it open. -/
def boundDecoder : Json.Decoder (Option Instant) := fun room t =>
  match t with
  | .null => .ok none
  | t => Json.Decoder.text boundOfText room t

end Instant
end PasskeySession
