import PasskeySession.Proofs.Json.Roundtrip

/-! # Number literals

A number in a text has a sign or none, digits, perhaps a point with more digits, and perhaps an exponent, which
may be spelled in several ways. A literal is read as the numeral that it spells, and denotes a rational. -/

namespace PasskeySession

namespace Exponent

def size (e : Exponent) : Nat := Nat.ofDigitChars 10 e.digits 0

def value (e : Exponent) : ℤ := if e.negative then -e.size else e.size

end Exponent

namespace Numeral

/-- The power of ten that a numeral is scaled by. -/
def scaling (n : Numeral) : ℤ := (n.exponent.map Exponent.value).getD 0

/-- The number that a numeral denotes without its sign. -/
def magnitude (n : Numeral) : ℚ :=
  Nat.ofDigitChars 10 (n.whole ++ n.fraction) 0 / 10 ^ n.fraction.length * 10 ^ n.scaling

/-- The number that a numeral denotes. -/
def value (n : Numeral) : ℚ := if n.negative then -n.magnitude else n.magnitude

end Numeral

namespace Json

/-- A number as a text may have it: a numeral, and how its exponent is spelled. -/
structure Literal where
  numeral : Numeral
  proper : numeral.Proper
  /-- The letter before the exponent is a capital. -/
  capital : Bool
  /-- An exponent that is not negative has a sign. -/
  plus : Bool

namespace Literal
variable {ds rest : List Char}

def sign (negative plus : Bool) : List Char := if negative then ['-'] else if plus then ['+'] else []

/-- The characters of the exponent, if there is one. -/
def power (t : Literal) : List Char :=
  match t.numeral.exponent with
  | none => []
  | some e => (if t.capital then 'E' else 'e') :: (sign e.negative t.plus ++ e.digits)

def chars (t : Literal) : List Char := t.numeral.mantissa ++ t.power

def text (t : Literal) : String := String.ofList t.chars

/-- The number that a literal denotes. -/
def value (t : Literal) : ℚ := t.numeral.value

theorem exponent?_sign (negative plus : Bool) (hne : ds ≠ []) (hd : ∀ c ∈ ds, c.isDigit = true)
    (hr : ∀ c ∈ rest.head?, c.isDigit = false) :
    Tree.exponent? (sign negative plus ++ (ds ++ rest)) = some (⟨negative, ds⟩, rest) := by
  have hempty : ds.isEmpty = false := by simpa using hne
  have htake := Tree.takeWhile_digits hd hr
  have hdrop := Tree.dropWhile_digits hd hr
  cases negative with
  | true => simp [sign, Tree.exponent?, htake, hdrop, hempty]
  | false =>
    cases plus with
    | true => simp [sign, Tree.exponent?, htake, hdrop, hempty]
    | false =>
      obtain ⟨c, cs, rfl⟩ := List.exists_cons_of_ne_nil hne
      have hc : c.isDigit = true := hd c List.mem_cons_self
      have hminus : c ≠ '-' := by
        rintro rfl
        cases hc
      have hplus : c ≠ '+' := by
        rintro rfl
        cases hc
      rw [List.cons_append] at htake hdrop
      simp [sign, Tree.exponent?, hminus, hplus, htake, hdrop]

/-- However it is spelled, the exponent is read. -/
theorem spells (t : Literal) (hr : Tree.Stops rest) : Tree.Spells (t.power ++ rest) t.numeral.exponent rest := by
  unfold power
  cases he : t.numeral.exponent with
  | none => exact Tree.spells_none hr
  | some e =>
    obtain ⟨hne, hd⟩ := t.proper.exponent e he
    have hread := exponent?_sign e.negative t.plus hne hd (Tree.isDigit_of_stops hr)
    rw [List.cons_append, List.append_assoc]
    cases t.capital with
    | true => exact ⟨by rintro _ ⟨⟩; decide, congrArg (Option.map _) hread⟩
    | false => exact ⟨by rintro _ ⟨⟩; decide, congrArg (Option.map _) hread⟩

/-- A literal is read as its numeral, whatever stands behind it, unless this goes on with it. -/
theorem value_chars (t : Literal) (fuel : Nat) (hr : Tree.Stops rest) :
    Tree.value (fuel + 1) (t.chars ++ rest) = (.number t.numeral, rest) := by
  rw [chars, List.append_assoc]
  exact Tree.value_mantissa t.proper (t.spells hr)

theorem read_chars (t : Literal) : Tree.read t.chars = ⟨.number t.numeral, true⟩ := by
  have hread := t.value_chars (2 * t.chars.length + 1) Tree.stops_nil
  rw [List.append_nil] at hread
  rw [Tree.read, hread]
  rfl

theorem runText {α : Type} (d : Decoder α) (t : Literal) :
    d.runText t.text = d deepest (.number t.numeral) := by
  rw [Decoder.runText, text, String.toList_ofList, Decoder.run, read_chars]
  dsimp only
  cases d deepest (.number t.numeral) <;> rfl

end Literal
end Json
end PasskeySession
