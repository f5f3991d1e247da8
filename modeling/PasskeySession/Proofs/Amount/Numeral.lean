import Mathlib.Data.List.Induction
import PasskeySession.Proofs.Amount.Scaling
import PasskeySession.Proofs.Amount.Text

/-! # One way to write a number

A natural number has one numeral, and an amount is written in one way with digits before and after a point: no
leading nought but a single one, and no trailing nought after the point. -/

namespace PasskeySession

/-! ### Numerals -/

namespace Text
variable {cs ds : List Char} {c : Char} {n : Nat}

theorem digitChar_of_isDigit (h : c.isDigit = true) : Nat.digitChar (c.toNat - 48) = c := by
  obtain ⟨hle, hge⟩ := toNat_of_isDigit h
  have htable : ∀ n < 10, (Nat.digitChar n).toNat = n + 48 := by decide
  refine Char.toNat_inj.mp ?_
  rw [htable _ (by omega)]
  omega

theorem ofDigitChars_concat (cs : List Char) (c : Char) :
    Nat.ofDigitChars 10 (cs ++ [c]) 0 = 10 * Nat.ofDigitChars 10 cs 0 + (c.toNat - 48) := by
  rw [Nat.ofDigitChars_append, ofDigitChars_cons, Nat.ofDigitChars_nil, Nat.mul_comm]

/-- Digits without a leading nought are those of their number. -/
theorem eq_toDigits (hdigits : ∀ c ∈ cs, c.isDigit = true) (hne : cs ≠ [])
    (hlead : cs.head? = some '0' → cs = ['0']) : cs = Nat.toDigits 10 (Nat.ofDigitChars 10 cs 0) := by
  induction cs using List.reverseRecOn with
  | nil => exact absurd rfl hne
  | append_singleton cs c ih =>
    have hc : c.isDigit = true := hdigits c (by simp)
    have hle := toNat_of_isDigit hc
    rw [ofDigitChars_concat]
    by_cases hnil : cs = []
    · subst hnil
      rw [Nat.ofDigitChars_nil, Nat.mul_zero, Nat.zero_add, Nat.toDigits_of_lt_base (by omega),
        digitChar_of_isDigit hc, List.nil_append]
    · have hhead : cs.head? ≠ some '0' := by
        intro hzero
        have hsingle := hlead (by rw [List.head?_append_of_ne_nil _ hnil, hzero])
        rcases List.append_eq_singleton_iff.mp hsingle with ⟨h, -⟩ | ⟨-, h⟩
        · exact hnil h
        · cases h
      have hcs := ih (fun d hd => hdigits d (by simp [hd])) hnil (fun hzero => absurd hzero hhead)
      -- The digits before the last are not those of nought.
      have hpos : Nat.ofDigitChars 10 cs 0 ≠ 0 := by
        intro hzero
        rw [hzero, Nat.toDigits_zero] at hcs
        exact hhead (by rw [hcs]; rfl)
      rw [Nat.toDigits_of_base_le (by decide) (by omega), Nat.mul_add_div (by decide), Nat.mul_add_mod,
        Nat.div_eq_of_lt (by omega), Nat.mod_eq_of_lt (by omega), Nat.add_zero, ← hcs, digitChar_of_isDigit hc]

/-- As many digits for the same number are the same digits. -/
theorem eq_of_length_eq (hcs : ∀ c ∈ cs, c.isDigit = true) (hds : ∀ c ∈ ds, c.isDigit = true)
    (hlen : cs.length = ds.length) (hval : Nat.ofDigitChars 10 cs 0 = Nat.ofDigitChars 10 ds 0) : cs = ds := by
  induction cs using List.reverseRecOn generalizing ds with
  | nil => exact (List.length_eq_zero_iff.mp hlen.symm).symm
  | append_singleton cs c ih =>
    rcases List.eq_nil_or_concat' ds with rfl | ⟨ds, d, rfl⟩
    · simp at hlen
    · have hc : c.isDigit = true := hcs c (by simp)
      have hd : d.isDigit = true := hds d (by simp)
      have hc' := toNat_of_isDigit hc
      have hd' := toNat_of_isDigit hd
      rw [ofDigitChars_concat, ofDigitChars_concat] at hval
      have hlast : c = d := by
        rw [← digitChar_of_isDigit hc, ← digitChar_of_isDigit hd]
        congr 1
        omega
      have hrest : cs = ds := by
        refine ih (fun e he => hcs e ?_) (fun e he => hds e ?_) (by simpa using hlen) (by omega)
        · exact List.mem_append_left _ he
        · exact List.mem_append_left _ he
      rw [hrest, hlast]

theorem ofDigitChars_lt (h : ∀ c ∈ cs, c.isDigit = true) : Nat.ofDigitChars 10 cs 0 < 10 ^ cs.length := by
  induction cs using List.reverseRecOn with
  | nil => decide
  | append_singleton cs c ih =>
    have hc := toNat_of_isDigit (h c (by simp))
    have := ih fun d hd => h d (by simp [hd])
    rw [ofDigitChars_concat, List.length_append, List.length_singleton, pow_succ]
    omega

end Text

theorem IsNumeral.eq_toDigits {text : String} {q : ℚ} (h : IsNumeral text q) :
    text.toList = Nat.toDigits 10 (Nat.ofDigitChars 10 text.toList 0) :=
  Text.eq_toDigits h.digits h.nonempty h.leading

/-- A number has one numeral. -/
theorem IsNumeral.unique {s t : String} {q : ℚ} (hs : IsNumeral s q) (ht : IsNumeral t q) : s = t := by
  have hval : Nat.ofDigitChars 10 s.toList 0 = Nat.ofDigitChars 10 t.toList 0 := by
    exact_mod_cast hs.value.trans ht.value.symm
  refine String.toList_inj.mp ?_
  rw [hs.eq_toDigits, ht.eq_toDigits, hval]

/-! ### Digits with a point -/

/-- Digits before and after a point write a number in the one way that has no leading nought, save a single one,
    and no trailing nought after the point. -/
structure IsDecimal (whole fraction : List Char) (q : ℚ) : Prop where
  wholeDigits : ∀ c ∈ whole, c.isDigit = true
  fractionDigits : ∀ c ∈ fraction, c.isDigit = true
  nonempty : whole ≠ []
  leading : whole.head? = some '0' → whole = ['0']
  trailing : fraction.getLast? ≠ some '0'
  value : (Nat.ofDigitChars 10 (whole ++ fraction) 0 : ℚ) / 10 ^ fraction.length = q

namespace IsDecimal
variable {whole fraction whole' fraction' : List Char} {q : ℚ}

/-- The amount that the digits write. -/
def amount (h : IsDecimal whole fraction q) : DecimalAmount where
  units := Nat.ofDigitChars 10 (whole ++ fraction) 0
  scale := fraction.length
  shortest := by
    rcases List.eq_nil_or_concat' fraction with rfl | ⟨front, c, rfl⟩
    · exact Or.inl rfl
    · right
      have hc := Text.toNat_of_isDigit (h.fractionDigits c (by simp))
      have hne : c ≠ '0' := fun hzero => h.trailing (by simp [hzero])
      have hlast : c.toNat ≠ 48 := fun hzero => hne (Char.toNat_inj.mp hzero)
      rw [← List.append_assoc, Text.ofDigitChars_concat, Nat.mul_add_mod]
      omega

theorem value_amount (h : IsDecimal whole fraction q) : h.amount.value = q := h.value

theorem unique (h : IsDecimal whole fraction q) (h' : IsDecimal whole' fraction' q) :
    whole = whole' ∧ fraction = fraction' := by
  have hsame : h.amount = h'.amount := DecimalAmount.value_injective (h.value_amount.trans h'.value_amount.symm)
  have hunits : Nat.ofDigitChars 10 (whole ++ fraction) 0 = Nat.ofDigitChars 10 (whole' ++ fraction') 0 :=
    congrArg DecimalAmount.units hsame
  have hscale : fraction.length = fraction'.length := congrArg DecimalAmount.scale hsame
  have hlt := Text.ofDigitChars_lt h.fractionDigits
  have hlt' := Text.ofDigitChars_lt h'.fractionDigits
  rw [Nat.ofDigitChars_append, Nat.ofDigitChars_append, Nat.ofDigitChars_eq_ofDigitChars_zero,
    Nat.ofDigitChars_eq_ofDigitChars_zero (l := fraction'), hscale] at hunits
  rw [hscale] at hlt
  -- The digits before the point are the quotient of all of them, and those after it the remainder.
  have hwhole : Nat.ofDigitChars 10 whole 0 = Nat.ofDigitChars 10 whole' 0 := by
    have := congrArg (· / 10 ^ fraction'.length) hunits
    simpa [Nat.mul_add_div, Nat.div_eq_of_lt hlt, Nat.div_eq_of_lt hlt'] using this
  have hfraction : Nat.ofDigitChars 10 fraction 0 = Nat.ofDigitChars 10 fraction' 0 := by
    have := congrArg (· % 10 ^ fraction'.length) hunits
    simpa [Nat.mul_add_mod, Nat.mod_eq_of_lt hlt, Nat.mod_eq_of_lt hlt'] using this
  constructor
  · rw [Text.eq_toDigits h.wholeDigits h.nonempty h.leading, hwhole]
    exact (Text.eq_toDigits h'.wholeDigits h'.nonempty h'.leading).symm
  · exact Text.eq_of_length_eq h.fractionDigits h'.fractionDigits hscale hfraction

end IsDecimal

namespace DecimalAmount
variable {decimals : Nat}

/-- The digits before the point. -/
def whole (a : DecimalAmount) : List Char :=
  let digits := padded (a.scale + 1) a.units
  digits.take (digits.length - a.scale)

/-- The digits after the point. -/
def fraction (a : DecimalAmount) : List Char :=
  let digits := padded (a.scale + 1) a.units
  digits.drop (digits.length - a.scale)

/-- Digits with a point between them, unless there are none after it. -/
def joined (whole fraction : List Char) : List Char :=
  if fraction = [] then whole else whole ++ '.' :: fraction

theorem whole_append_fraction (a : DecimalAmount) : a.whole ++ a.fraction = padded (a.scale + 1) a.units :=
  List.take_append_drop ..

theorem length_fraction (a : DecimalAmount) : a.fraction.length = a.scale := by
  have hlen := le_length_padded (a.scale + 1) a.units
  rw [fraction, List.length_drop]
  omega

theorem fraction_eq_nil_iff {a : DecimalAmount} : a.fraction = [] ↔ a.scale = 0 := by
  rw [← List.length_eq_zero_iff, length_fraction]

theorem chars_eq (a : DecimalAmount) : a.chars = joined a.whole a.fraction := by
  by_cases hscale : a.scale = 0
  · have hnil := fraction_eq_nil_iff.mpr hscale
    rw [chars, joined, if_pos hscale, if_pos hnil, ← whole_append_fraction, hnil, List.append_nil]
  · rw [chars, joined, if_neg hscale, if_neg (fraction_eq_nil_iff.not.mpr hscale)]
    rfl

/-- Every amount is written in the one way. -/
theorem isDecimal (a : DecimalAmount) : IsDecimal a.whole a.fraction a.value := by
  have hdigits : ∀ c ∈ a.whole ++ a.fraction, c.isDigit = true := by
    rw [whole_append_fraction]
    exact isDigit_padded (a.scale + 1) a.units
  have hlen := le_length_padded (a.scale + 1) a.units
  have hwhole : a.whole.length = (padded (a.scale + 1) a.units).length - a.scale := by
    rw [whole, List.length_take]
    omega
  have hvalue : Nat.ofDigitChars 10 (a.whole ++ a.fraction) 0 = a.units := by
    rw [whole_append_fraction, ofDigitChars_padded]
  refine ⟨fun c hc => hdigits c (List.mem_append_left _ hc), fun c hc => hdigits c (List.mem_append_right _ hc),
    List.ne_nil_of_length_pos (by omega), fun hzero => ?_, fun hzero => ?_, ?_⟩
  · by_cases hshort : (padded (a.scale + 1) a.units).length = a.scale + 1
    · obtain ⟨c, hc⟩ := List.length_eq_one_iff.mp (show a.whole.length = 1 by omega)
      rw [hc] at hzero ⊢
      rw [Option.some.inj hzero]
    · -- Nothing is padded, and the digits of a number have no leading nought.
      have hnone : a.scale + 1 - (Nat.toDigits 10 a.units).length = 0 := by
        by_contra hpad
        apply hshort
        rw [padded, List.length_append, List.length_replicate]
        omega
      have hpadded : padded (a.scale + 1) a.units = Nat.toDigits 10 a.units := by
        rw [padded, hnone]
        rfl
      have hhead : (Nat.toDigits 10 a.units).head? = some '0' := by
        rw [← hpadded, ← whole_append_fraction,
          List.head?_append_of_ne_nil _ (List.ne_nil_of_length_pos (by omega)), hzero]
      have hone := congrArg List.length (toDigits_leading hhead)
      rw [← hpadded, List.length_singleton] at hone
      omega
  · obtain ⟨front, hfront⟩ : ∃ front, a.fraction = front ++ ['0'] := List.getLast?_eq_some_iff.mp hzero
    rw [hfront, ← List.append_assoc, Text.ofDigitChars_concat] at hvalue
    rcases a.shortest with hscale | hlast
    · rw [fraction_eq_nil_iff.mpr hscale] at hfront
      simp at hfront
    · apply hlast
      rw [← hvalue, Nat.mul_add_mod]
      rfl
  · rw [hvalue, length_fraction]
    rfl

end DecimalAmount
end PasskeySession
