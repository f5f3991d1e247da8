/-! # JSON values

A number keeps the digits it was written with: nothing is rounded, and `1.0` stays apart from `1`. -/

namespace PasskeySession

/-- The power of ten of a number. -/
structure Exponent where
  negative : Bool
  digits : List Char
  deriving DecidableEq, Repr

/-- A number as it is written: the parts have digits only, and an empty fraction has no point. -/
structure Numeral where
  negative : Bool
  whole : List Char
  fraction : List Char
  exponent : Option Exponent
  deriving DecidableEq, Repr

namespace Numeral

def ofNat (n : Nat) : Numeral := ⟨false, Nat.toDigits 10 n, [], none⟩

def ofInt (i : Int) : Numeral := ⟨i < 0, Nat.toDigits 10 i.natAbs, [], none⟩

def mantissa (n : Numeral) : List Char :=
  (if n.negative then ['-'] else []) ++ n.whole ++ (if n.fraction.isEmpty then [] else '.' :: n.fraction)

def power (n : Numeral) : List Char :=
  match n.exponent with
  | none => []
  | some e => 'e' :: (if e.negative then '-' else '+') :: e.digits

def chars (n : Numeral) : List Char := n.mantissa ++ n.power

/-- The natural number that is written without sign, fraction or exponent. -/
def toNat? (n : Numeral) : Option Nat :=
  if n.negative || !n.fraction.isEmpty || n.exponent.isSome then none
  else some (Nat.ofDigitChars 10 n.whole 0)

end Numeral

/-- A JSON value. -/
inductive Json
  | null
  | bool (b : Bool)
  | number (n : Numeral)
  | string (s : String)
  | array (items : List Json)
  | object (members : List (String × Json))
  deriving Inhabited

namespace Json

def ofNat (n : Nat) : Json := .number (.ofNat n)

def ofInt (i : Int) : Json := .number (.ofInt i)

def ofString? : Option String → Json
  | none => .null
  | some s => .string s

/-- The list of what is made of each item. -/
def ofList {α : Type} (f : α → Json) (xs : List α) : Json := .array (xs.map f)

end Json
end PasskeySession
