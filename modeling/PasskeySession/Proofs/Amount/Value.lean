import Mathlib.Data.Rat.Floor
import Mathlib.Tactic.FieldSimp
import Mathlib.Tactic.Ring
import PasskeySession.Amount.BaseUnits

/-! # What amounts are worth

An amount as a rational number, and base units as what they are of it: a whole number, written as its
canonical numeral, with nothing lost. -/

namespace PasskeySession

/-- A text is the canonical decimal numeral of a number: its digits, the first of which is not nought, unless it
    is the only one. -/
structure IsNumeral (text : String) (q : ℚ) : Prop where
  digits : ∀ c ∈ text.toList, c.isDigit = true
  nonempty : text.toList ≠ []
  leading : text.toList.head? = some '0' → text.toList = ['0']
  value : (Nat.ofDigitChars 10 text.toList 0 : ℚ) = q

/-- The digits of a number begin with a nought only if it is nought. -/
theorem toDigits_leading {n : Nat} (h : (Nat.toDigits 10 n).head? = some '0') : Nat.toDigits 10 n = ['0'] := by
  induction n using Nat.strongRecOn with
  | ind n ih =>
    by_cases hn : n < 10
    · rw [Nat.toDigits_of_lt_base hn] at h ⊢
      rw [Option.some.inj h]
    · have hle : 10 ≤ n := Nat.le_of_not_lt hn
      have hlt : n / 10 < n := Nat.div_lt_self (by omega) (by decide)
      rw [Nat.toDigits_of_base_le (by decide) hle, List.head?_append_of_ne_nil _ Nat.toDigits_ne_nil] at h
      -- The number before the last digit would be nought.
      have hzero := congrArg (Nat.ofDigitChars 10 · 0) (ih (n / 10) hlt h)
      simp only [Nat.ofDigitChars_ten_toDigits] at hzero
      have : n / 10 = 0 := hzero
      omega

theorem BaseUnits.text_isNumeral (u : BaseUnits) : IsNumeral u.text u.count := by
  have chars : u.text.toList = Nat.toDigits 10 u.count := Nat.toList_repr
  refine ⟨?_, ?_, ?_, ?_⟩ <;> rw [chars]
  · exact fun c hc => Nat.isDigit_of_mem_toDigits (by decide) (by decide) hc
  · exact Nat.toDigits_ne_nil
  · exact toDigits_leading
  · rw [Nat.ofDigitChars_ten_toDigits]

namespace DecimalAmount
variable {a : DecimalAmount} {decimals : Nat} {u : BaseUnits}

/-- The number that an amount denotes. -/
def value (a : DecimalAmount) : ℚ := a.units / 10 ^ a.scale

/-- Base units are the amount, and nothing is lost. -/
theorem count_of_toBaseUnits (h : a.toBaseUnits decimals = .ok u) : (u.count : ℚ) = a.value * 10 ^ decimals := by
  unfold toBaseUnits at h
  split at h
  · rename_i hle
    cases h
    have hpow : (10 : ℚ) ^ decimals = 10 ^ (decimals - a.scale) * 10 ^ a.scale := by
      rw [← pow_add, Nat.sub_add_cancel hle]
    have hcount : ((a.units * Nat.pow 10 (decimals - a.scale) : Nat) : ℚ) = a.units * 10 ^ (decimals - a.scale) := by
      rw [Nat.cast_mul, Nat.pow_eq, Nat.cast_pow, Nat.cast_ofNat]
    rw [value, hpow, hcount]
    field_simp
  · cases h

end DecimalAmount
end PasskeySession
