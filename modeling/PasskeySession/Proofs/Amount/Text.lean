import PasskeySession.Amount.Decimal
import PasskeySession.Proofs.Text.Digits

/-! # Amounts that are written read back

The digits of a number, padded to some length, are worth the number, and the text of an amount reads as the
amount. -/

namespace PasskeySession.DecimalAmount
variable {cs whole fraction : List Char}

/-! ### Padded digits -/

theorem isDigit_padded (length n : Nat) : ∀ c ∈ padded length n, c.isDigit = true := by
  intro c hc
  rcases List.mem_append.mp hc with hc | hc
  · rw [List.eq_of_mem_replicate hc]
    decide
  · exact Text.isDigit_toDigits n c hc

theorem ofDigitChars_padded (length n : Nat) : Nat.ofDigitChars 10 (padded length n) 0 = n := by
  rw [padded, Nat.ofDigitChars_append, Nat.ofDigitChars_replicate_zero, Nat.mul_zero, Nat.ofDigitChars_ten_toDigits]

theorem le_length_padded (length n : Nat) : length ≤ (padded length n).length := by
  rw [padded, List.length_append, List.length_replicate]
  omega

/-- A number of no more digits fills the length. -/
theorem length_padded {length n : Nat} (hpos : 0 < length) (h : n < Nat.pow 10 length) :
    (padded length n).length = length := by
  have := (Nat.length_toDigits_le_iff (b := 10) (by decide) hpos).mpr h
  rw [padded, List.length_append, List.length_replicate]
  omega

/-! ### The text of an amount -/

/-- A number with the least scale is not reduced. -/
theorem ofScaled_units (a : DecimalAmount) : ofScaled a.units a.scale = a := by
  have hreduce : reduce a.units a.scale = (a.units, a.scale) := by
    have hshort := a.shortest
    cases hs : a.scale with
    | zero => rfl
    | succ scale => rw [reduce, if_neg (hshort.resolve_left (by omega))]
  ext
  · exact congrArg Prod.fst hreduce
  · exact congrArg Prod.snd hreduce

theorem ne_point_of_isDigit {c : Char} (h : c.isDigit = true) : (c != '.') = true := by
  rw [bne_iff_ne]
  rintro rfl
  cases h

theorem splitPoint_digits (h : ∀ c ∈ whole, c.isDigit = true) : splitPoint whole = (whole, []) := by
  have hpoint : ∀ c ∈ whole, (c != '.') = true := fun c hc => ne_point_of_isDigit (h c hc)
  have htake : (whole ++ []).takeWhile (· != '.') = whole ++ [] := List.takeWhile_append_of_pos hpoint
  have hdrop : (whole ++ []).dropWhile (· != '.') = [] := List.dropWhile_append_of_pos hpoint
  rw [List.append_nil] at htake hdrop
  rw [splitPoint, htake, hdrop]
  rfl

theorem splitPoint_point (h : ∀ c ∈ whole, c.isDigit = true) :
    splitPoint (whole ++ '.' :: fraction) = (whole, fraction) := by
  have hpoint : ∀ c ∈ whole, (c != '.') = true := fun c hc => ne_point_of_isDigit (h c hc)
  rw [splitPoint, List.takeWhile_append_of_pos hpoint, List.dropWhile_append_of_pos hpoint]
  simp

theorem ofChars?_of_split (hsplit : splitPoint cs = (whole, fraction)) (hne : whole ≠ [])
    (hwhole : ∀ c ∈ whole, c.isDigit = true) (hfraction : ∀ c ∈ fraction, c.isDigit = true) :
    ofChars? cs = some (ofDigits whole fraction) := by
  have hempty : whole.isEmpty = false := by simpa using hne
  rw [ofChars?, hsplit]
  simp [hempty, List.all_eq_true.mpr hwhole, List.all_eq_true.mpr hfraction]

theorem ofChars?_chars (a : DecimalAmount) : ofChars? a.chars = some a := by
  have hdigits := isDigit_padded (a.scale + 1) a.units
  have hvalue := ofDigitChars_padded (a.scale + 1) a.units
  have hlen := le_length_padded (a.scale + 1) a.units
  have hself := ofScaled_units a
  unfold chars
  dsimp only
  generalize padded (a.scale + 1) a.units = digits at hdigits hvalue hlen
  split
  · rename_i hscale
    rw [hscale] at hself hlen
    rw [ofChars?_of_split (splitPoint_digits hdigits) (List.ne_nil_of_length_pos (by omega)) hdigits (by rintro _ ⟨⟩),
      ofDigits, List.append_nil, hvalue, List.length_nil, hself]
  · have htake : ∀ c ∈ digits.take (digits.length - a.scale), c.isDigit = true :=
      fun c hc => hdigits c (List.mem_of_mem_take hc)
    have hdrop : ∀ c ∈ digits.drop (digits.length - a.scale), c.isDigit = true :=
      fun c hc => hdigits c (List.mem_of_mem_drop hc)
    have hpos : 0 < (digits.take (digits.length - a.scale)).length := by
      rw [List.length_take]
      omega
    have hscale : (digits.drop (digits.length - a.scale)).length = a.scale := by
      rw [List.length_drop]
      omega
    rw [ofChars?_of_split (splitPoint_point htake) (List.ne_nil_of_length_pos hpos) htake hdrop,
      ofDigits, List.take_append_drop, hvalue, hscale, hself]

theorem isBlank_chars (a : DecimalAmount) : ∀ c ∈ a.chars, Text.isBlank c = false := by
  intro c hc
  have hdigits := isDigit_padded (a.scale + 1) a.units
  unfold chars at hc
  dsimp only at hc
  split at hc
  · exact Text.isBlank_of_isDigit (hdigits c hc)
  · rcases List.mem_append.mp hc with hc | hc
    · exact Text.isBlank_of_isDigit (hdigits c (List.mem_of_mem_take hc))
    · rcases List.mem_cons.mp hc with rfl | hc
      · decide
      · exact Text.isBlank_of_isDigit (hdigits c (List.mem_of_mem_drop hc))

/-- The text of an amount reads as the amount. -/
theorem parse_text (a : DecimalAmount) : parse a.text = .ok a := by
  rw [parse, text, String.toList_ofList, Text.trim_eq_self a.isBlank_chars, ofChars?_chars]

end PasskeySession.DecimalAmount
