import PasskeySession.Proofs.Amount.Numeral

/-! # Moving the point

An amount and its base units are written with the same digits; only the point stands elsewhere, with noughts
put in or left out at either end. Here it is moved among written digits, with every step checked that could
leave a text: the difference of two lengths is taken only if there is one, and a text is cut only within its
bounds. No check ever fails, and what comes out is the text of the base units, or the digits of the amount.
Hence a scaling is exact in both directions. -/

namespace PasskeySession
namespace Shift
variable {cs whole fraction : List Char} {m n decimals : Nat}

/-! ### Checked steps -/

/-- By how much the first length exceeds the second, if it does not fall short of it. -/
def excess? (m n : Nat) : Option Nat := if n ≤ m then some (m - n) else none

/-- A text in two parts, cut at a place within it. -/
def cut? (n : Nat) (cs : List Char) : Option (List Char × List Char) :=
  if n ≤ cs.length then some (cs.take n, cs.drop n) else none

/-- Digits without the noughts in front of them, and a single nought if there are no others. -/
def natural (cs : List Char) : List Char :=
  match cs.dropWhile (· == '0') with
  | [] => ['0']
  | ds => ds

theorem excess?_of_le (h : n ≤ m) : excess? m n = some (m - n) := if_pos h

theorem cut?_of_le (h : n ≤ cs.length) : cut? n cs = some (cs.take n, cs.drop n) := if_pos h

/-- Takes the point out of an amount, behind so many digits after it. -/
def up? (whole fraction : List Char) (decimals : Nat) : Option (Except Fault (List Char)) :=
  if decimals < fraction.length then
    some (.error (.precision (String.ofList (DecimalAmount.joined whole fraction)) decimals))
  else do
    let zeros ← excess? decimals fraction.length
    return .ok (natural (whole ++ fraction ++ List.replicate zeros '0'))

/-- Digits with noughts in front, so that there are more of them than stand behind the point. -/
def pad? (digits : List Char) (decimals : Nat) : Option (List Char) :=
  if digits.length ≤ decimals then do
    let zeros ← excess? (decimals + 1) digits.length
    return List.replicate zeros '0' ++ digits
  else some digits

/-- Puts a point into digits, before so many of them. -/
def down? (digits : List Char) (decimals : Nat) : Option (List Char × List Char) := do
  let padded ← pad? digits decimals
  let point ← excess? padded.length decimals
  let (whole, fraction) ← cut? point padded
  return (natural whole, Text.dropEndWhile (· == '0') fraction)

/-! ### Noughts that do not count -/

theorem ofDigitChars_dropWhile (cs : List Char) :
    Nat.ofDigitChars 10 (cs.dropWhile (· == '0')) 0 = Nat.ofDigitChars 10 cs 0 := by
  induction cs with
  | nil => rfl
  | cons c cs ih =>
    by_cases hc : c = '0'
    · subst hc
      exact ih
    · rw [List.dropWhile_cons_of_neg (by simpa using hc)]

theorem ofDigitChars_natural (cs : List Char) : Nat.ofDigitChars 10 (natural cs) 0 = Nat.ofDigitChars 10 cs 0 := by
  rw [← ofDigitChars_dropWhile cs, natural]
  split
  · rename_i hnil
    rw [hnil]
    rfl
  · rfl

theorem isDigit_natural (h : ∀ c ∈ cs, c.isDigit = true) : ∀ c ∈ natural cs, c.isDigit = true := by
  intro c hc
  unfold natural at hc
  split at hc
  · rw [List.mem_singleton.mp hc]
    decide
  · exact h c ((List.dropWhile_sublist _).mem hc)

theorem natural_ne_nil (cs : List Char) : natural cs ≠ [] := by
  unfold natural
  split
  · exact List.cons_ne_nil _ _
  · assumption

theorem natural_leading (h : (natural cs).head? = some '0') : natural cs = ['0'] := by
  unfold natural at h ⊢
  split
  · rfl
  · -- The first digit that was not dropped is not nought.
    rename_i hne
    have hnot := List.head?_dropWhile_not (· == '0') cs
    split at h
    · contradiction
    · rw [h] at hnot
      cases hnot

/-- A digit that is not counted any more is not counted in the scale either. -/
theorem value_dropEndWhile (n : Nat) (fraction : List Char) :
    (Nat.ofDigitChars 10 (Text.dropEndWhile (· == '0') fraction) n : ℚ) /
      10 ^ (Text.dropEndWhile (· == '0') fraction).length = Nat.ofDigitChars 10 fraction n / 10 ^ fraction.length := by
  induction fraction using List.reverseRecOn with
  | nil => rfl
  | append_singleton front c ih =>
    by_cases hc : c = '0'
    · subst hc
      rw [Text.dropEndWhile_append_of_pos rfl, ih, Nat.ofDigitChars_append, Text.ofDigitChars_cons,
        Nat.ofDigitChars_nil, List.length_append, List.length_singleton, pow_succ]
      have hnought : (('0').toNat - 48 : Nat) = 0 := rfl
      rw [hnought, Nat.add_zero, Nat.cast_mul, Nat.cast_ofNat]
      field_simp
    · rw [Text.dropEndWhile_append_of_neg (by simpa using hc)]

/-- Without the noughts at either end, digits are in the one form. -/
theorem isDecimal_trimmed (hwhole : ∀ c ∈ whole, c.isDigit = true) (hfraction : ∀ c ∈ fraction, c.isDigit = true) :
    IsDecimal (natural whole) (Text.dropEndWhile (· == '0') fraction)
      (Nat.ofDigitChars 10 (whole ++ fraction) 0 / 10 ^ fraction.length) where
  wholeDigits := isDigit_natural hwhole
  fractionDigits c hc := by
    rw [Text.dropEndWhile, List.mem_reverse] at hc
    exact hfraction c (List.mem_reverse.mp ((List.dropWhile_sublist _).mem hc))
  nonempty := natural_ne_nil whole
  leading := natural_leading
  trailing hzero := by
    have := Text.getLast?_dropEndWhile hzero
    cases this
  value := by
    rw [Nat.ofDigitChars_append, ofDigitChars_natural, value_dropEndWhile, Nat.ofDigitChars_append]

/-! ### What the steps come to -/

/-- The point of an amount is taken out without leaving the text, and the base units are what remains. -/
theorem up?_eq (a : DecimalAmount) (decimals : Nat) :
    up? a.whole a.fraction decimals = some ((a.toBaseUnits decimals).map fun u => u.text.toList) := by
  by_cases hlt : decimals < a.scale
  · have herror : a.toBaseUnits decimals = .error (.precision a.text decimals) := if_neg (Nat.not_le_of_lt hlt)
    rw [up?, if_pos (a.length_fraction ▸ hlt), ← a.chars_eq, herror]
    rfl
  · have hle : a.scale ≤ decimals := Nat.le_of_not_lt hlt
    have hok : a.toBaseUnits decimals = .ok ⟨a.units * Nat.pow 10 (decimals - a.scale)⟩ := if_pos hle
    have hdec := a.isDecimal
    have hdigits : ∀ c ∈ a.whole ++ a.fraction ++ List.replicate (decimals - a.scale) '0', c.isDigit = true := by
      intro c hc
      rcases List.mem_append.mp hc with hc | hc
      · rcases List.mem_append.mp hc with hc | hc
        · exact hdec.wholeDigits c hc
        · exact hdec.fractionDigits c hc
      · rw [List.eq_of_mem_replicate hc]
        decide
    have hvalue : Nat.ofDigitChars 10 (a.whole ++ a.fraction ++ List.replicate (decimals - a.scale) '0') 0
        = a.units * Nat.pow 10 (decimals - a.scale) := by
      rw [Nat.ofDigitChars_append, a.whole_append_fraction, DecimalAmount.ofDigitChars_padded,
        Nat.ofDigitChars_replicate_zero, Nat.mul_comm]
      rfl
    have hnumeral : IsNumeral (String.ofList (natural
        (a.whole ++ a.fraction ++ List.replicate (decimals - a.scale) '0')))
        (a.units * Nat.pow 10 (decimals - a.scale) : Nat) := by
      refine ⟨?_, ?_, ?_, ?_⟩ <;> rw [String.toList_ofList]
      · exact isDigit_natural hdigits
      · exact natural_ne_nil _
      · exact natural_leading
      · rw [ofDigitChars_natural, hvalue]
    have hsame := hnumeral.unique (BaseUnits.text_isNumeral ⟨a.units * Nat.pow 10 (decimals - a.scale)⟩)
    rw [up?, if_neg (a.length_fraction ▸ hlt), a.length_fraction, excess?_of_le hle, hok, Except.map, ← hsame,
      String.toList_ofList]
    rfl

theorem pad?_eq (u : BaseUnits) (decimals : Nat) :
    pad? u.text.toList decimals = some (DecimalAmount.padded (decimals + 1) u.count) := by
  have htext : u.text.toList = Nat.toDigits 10 u.count := Nat.toList_repr
  rw [pad?, htext, DecimalAmount.padded]
  split
  · rename_i hle
    rw [excess?_of_le (Nat.le_succ_of_le hle)]
    rfl
  · rename_i hlt
    have hnone : decimals + 1 - (Nat.toDigits 10 u.count).length = 0 := by omega
    rw [hnone]
    rfl

/-- A point is put into base units without leaving the text, and the amount is what comes of it. -/
theorem down?_eq (u : BaseUnits) (decimals : Nat) :
    down? u.text.toList decimals = some ((u.toDecimal decimals).whole, (u.toDecimal decimals).fraction) := by
  have hdigits := DecimalAmount.isDigit_padded (decimals + 1) u.count
  have hlen := DecimalAmount.le_length_padded (decimals + 1) u.count
  have hvalue := DecimalAmount.ofDigitChars_padded (decimals + 1) u.count
  rw [down?, pad?_eq, Option.bind_eq_bind, Option.bind_some]
  generalize DecimalAmount.padded (decimals + 1) u.count = digits at hdigits hlen hvalue
  have hle : decimals ≤ digits.length := Nat.le_of_succ_le hlen
  have hfraction : (digits.drop (digits.length - decimals)).length = decimals := by
    rw [List.length_drop]
    omega
  have hwhole : ∀ c ∈ digits.take (digits.length - decimals), c.isDigit = true :=
    fun c hc => hdigits c (List.mem_of_mem_take hc)
  have hrest : ∀ c ∈ digits.drop (digits.length - decimals), c.isDigit = true :=
    fun c hc => hdigits c (List.mem_of_mem_drop hc)
  have htrimmed := isDecimal_trimmed hwhole hrest
  rw [List.take_append_drop, hvalue, hfraction, ← u.value_toDecimal] at htrimmed
  obtain ⟨hkept, hcut⟩ := htrimmed.unique (u.toDecimal decimals).isDecimal
  rw [← hkept, ← hcut]
  simp only [Option.bind_eq_bind, Option.bind_some, excess?_of_le hle, cut?_of_le (Nat.sub_le _ _)]
  rfl

end Shift

/-! ### Exactness -/

namespace DecimalAmount

/-- An amount that is scaled into base units of so many decimals. -/
structure ScalesUp (a : DecimalAmount) (decimals : Nat) : Prop where
  accepted : (∃ u, a.toBaseUnits decimals = .ok u) ↔ a.Whole decimals
  /-- Base units are the numeral of exactly that number, and the amount comes back from them. -/
  exact : ∀ u, a.toBaseUnits decimals = .ok u →
    IsNumeral u.text (a.value * 10 ^ decimals) ∧ u.toDecimal decimals = a
  refused : ¬ a.Whole decimals → a.toBaseUnits decimals = .error (.precision a.text decimals)
  /-- No step among the digits leaves them. -/
  within : Shift.up? a.whole a.fraction decimals = some ((a.toBaseUnits decimals).map fun u => u.text.toList)

/-- Base units of so many decimals that are made an amount. -/
structure ScalesDown (u : BaseUnits) (decimals : Nat) : Prop where
  text : (u.toDecimal decimals).text =
    String.ofList (joined (u.toDecimal decimals).whole (u.toDecimal decimals).fraction)
  normal : IsDecimal (u.toDecimal decimals).whole (u.toDecimal decimals).fraction (u.count / 10 ^ decimals)
  value : (u.toDecimal decimals).value = u.count / 10 ^ decimals
  back : (u.toDecimal decimals).toBaseUnits decimals = .ok u
  /-- No step among the digits leaves them. -/
  within : Shift.down? u.text.toList decimals = some ((u.toDecimal decimals).whole, (u.toDecimal decimals).fraction)

/-- Scaling is exact in both directions, for any amount, any base units and any number of decimals. -/
theorem scales_exactly (decimals : Nat) : (∀ a, ScalesUp a decimals) ∧ ∀ u, ScalesDown u decimals := by
  constructor
  · intro a
    refine ⟨whole_iff.symm, fun u hu => ⟨?_, BaseUnits.toDecimal_of_toBaseUnits hu⟩, fun hnot => ?_,
      Shift.up?_eq a decimals⟩
    · rw [← count_of_toBaseUnits hu]
      exact u.text_isNumeral
    · exact toBaseUnits_eq_error_iff.mpr ⟨hnot, rfl⟩
  · intro u
    refine ⟨?_, ?_, u.value_toDecimal decimals, u.toBaseUnits_toDecimal decimals, Shift.down?_eq u decimals⟩
    · rw [text, chars_eq]
    · rw [← u.value_toDecimal]
      exact isDecimal _

example : (BaseUnits.toDecimal ⟨1500⟩ 6).text = "0.0015" := by decide

end DecimalAmount
end PasskeySession
