import Mathlib.Order.Bounds.Defs
import PasskeySession.Proofs.Amount.Numeral

/-! # Which texts are amounts

A text is an amount if, without the white space around it, it has digits and at most one point and nothing else.
It is read as the number that it writes, and two texts are read alike exactly if they write the same number. -/

namespace PasskeySession
namespace DecimalAmount
variable {cs whole fraction : List Char} {s : String} {a : DecimalAmount}

/-! ### Digits with a point -/

/-- There are digits, at most one point, and nothing else. -/
structure Plain (cs : List Char) : Prop where
  marks : ∀ c ∈ cs, c.isDigit = true ∨ c = '.'
  point : cs.count '.' ≤ 1
  digit : ∃ c ∈ cs, c.isDigit = true

/-- The number that the digits after a point write. -/
def tenths : List Char → ℚ
  | [] => 0
  | c :: cs => ((c.toNat - 48 : ℕ) + tenths cs) / 10

def places (cs : List Char) : ℕ := (cs.dropWhile (· != '.')).tail.length

/-- The number that digits with at most one point write. -/
def written (cs : List Char) : ℚ :=
  Nat.ofDigitChars 10 (cs.takeWhile (· != '.')) 0 + tenths (cs.dropWhile (· != '.')).tail

theorem tenths_eq (cs : List Char) : tenths cs = Nat.ofDigitChars 10 cs 0 / 10 ^ cs.length := by
  induction cs with
  | nil => simp [tenths]
  | cons c cs ih =>
    have hfirst : Nat.ofDigitChars 10 (c :: cs) 0 = 10 ^ cs.length * (c.toNat - 48) + Nat.ofDigitChars 10 cs 0 := by
      rw [Text.ofDigitChars_cons, Nat.zero_mul, Nat.zero_add, Nat.ofDigitChars_eq_ofDigitChars_zero]
    rw [tenths, ih, hfirst, List.length_cons, pow_succ]
    push_cast
    field_simp

/-- The point only says how much the last digit counts. -/
theorem written_eq (cs : List Char) :
    written cs = Nat.ofDigitChars 10 ((splitPoint cs).1 ++ (splitPoint cs).2) 0 / 10 ^ places cs := by
  simp only [written, tenths_eq, splitPoint, List.drop_one, places, Nat.ofDigitChars_append]
  generalize Nat.ofDigitChars 10 (cs.takeWhile (· != '.')) 0 = n
  generalize (cs.dropWhile (· != '.')).tail = fraction
  have hshift : Nat.ofDigitChars 10 fraction n = 10 ^ fraction.length * n + Nat.ofDigitChars 10 fraction 0 :=
    Nat.ofDigitChars_eq_ofDigitChars_zero
  rw [hshift]
  push_cast
  field_simp

theorem length_fraction_splitPoint (cs : List Char) : (splitPoint cs).2.length = places cs := by
  rw [splitPoint, List.drop_one, places]

/-- A text has no point, or it is cut at its first one. -/
theorem splitPoint_cases (cs : List Char) : (splitPoint cs = (cs, []) ∧ '.' ∉ cs) ∨
    ∃ whole fraction, cs = whole ++ '.' :: fraction ∧ '.' ∉ whole ∧ splitPoint cs = (whole, fraction) := by
  have hcut := List.takeWhile_append_dropWhile (p := (· != '.')) (l := cs)
  have hwhole : '.' ∉ cs.takeWhile (· != '.') := by
    intro h
    have := List.all_eq_true.mp List.all_takeWhile '.' h
    simp at this
  rcases hdrop : cs.dropWhile (· != '.') with _ | ⟨c, rest⟩
  · left
    rw [hdrop, List.append_nil] at hcut
    rw [hcut] at hwhole
    simp [splitPoint, hdrop, hcut, hwhole]
  · right
    have hc := List.head?_dropWhile_not (· != '.') cs
    rw [hdrop] at hc hcut
    obtain rfl : c = '.' := by simpa using hc
    exact ⟨_, rest, hcut.symm, hwhole, by simp [splitPoint, hdrop]⟩

theorem digits_iff (h : '.' ∉ cs) : (∀ c ∈ cs, c.isDigit = true ∨ c = '.') ↔ ∀ c ∈ cs, c.isDigit = true := by
  constructor
  · intro hm c hc
    rcases hm c hc with hd | rfl
    · exact hd
    · exact absurd hc h
  · intro hd c hc
    exact Or.inl (hd c hc)

theorem point_not_mem (h : ∀ c ∈ cs, c.isDigit = true) : '.' ∉ cs := by
  intro hp
  have := h '.' hp
  cases this

theorem exists_digit (h : ∀ c ∈ cs, c.isDigit = true) : (∃ c ∈ cs, c.isDigit = true) ↔ cs ≠ [] := by
  constructor
  · rintro ⟨c, hc, -⟩
    exact List.ne_nil_of_mem hc
  · intro hne
    obtain ⟨c, hc⟩ := List.exists_mem_of_ne_nil cs hne
    exact ⟨c, hc, h c hc⟩

theorem plain_digits (h : '.' ∉ cs) : Plain cs ↔ (∀ c ∈ cs, c.isDigit = true) ∧ cs ≠ [] := by
  constructor
  · intro hp
    have hd := (digits_iff h).mp hp.marks
    exact ⟨hd, (exists_digit hd).mp hp.digit⟩
  · rintro ⟨hd, hne⟩
    refine ⟨(digits_iff h).mpr hd, ?_, (exists_digit hd).mpr hne⟩
    rw [List.count_eq_zero_of_not_mem h]
    exact Nat.zero_le 1

theorem plain_point (h : '.' ∉ whole) : Plain (whole ++ '.' :: fraction) ↔
    (∀ c ∈ whole, c.isDigit = true) ∧ (∀ c ∈ fraction, c.isDigit = true) ∧ (whole ≠ [] ∨ fraction ≠ []) := by
  have hcount : (whole ++ '.' :: fraction).count '.' = fraction.count '.' + 1 := by
    rw [List.count_append, List.count_eq_zero_of_not_mem h, List.count_cons_self, Nat.zero_add]
  have hdigit : (∃ c ∈ whole ++ '.' :: fraction, c.isDigit = true) ↔
      (∃ c ∈ whole, c.isDigit = true) ∨ ∃ c ∈ fraction, c.isDigit = true := by
    simp [or_and_right, exists_or]
  constructor
  · rintro ⟨hm, hp, hd⟩
    have hone : '.' ∉ fraction := by
      rw [hcount] at hp
      exact List.count_eq_zero.mp (by omega)
    rw [List.forall_mem_append, List.forall_mem_cons, digits_iff h, digits_iff hone] at hm
    obtain ⟨hw, -, hf⟩ := hm
    rw [hdigit, exists_digit hw, exists_digit hf] at hd
    exact ⟨hw, hf, hd⟩
  · rintro ⟨hw, hf, hne⟩
    have hone := point_not_mem hf
    refine ⟨?_, ?_, ?_⟩
    · rw [List.forall_mem_append, List.forall_mem_cons, digits_iff h, digits_iff hone]
      exact ⟨hw, Or.inr rfl, hf⟩
    · rw [hcount, List.count_eq_zero_of_not_mem hone]
    · rw [hdigit, exists_digit hw, exists_digit hf]
      exact hne

/-- A text is plain if there are digits before or after its point, and nothing but digits. -/
theorem plain_iff (cs : List Char) : Plain cs ↔ (∀ c ∈ (splitPoint cs).1, c.isDigit = true) ∧
    (∀ c ∈ (splitPoint cs).2, c.isDigit = true) ∧ ((splitPoint cs).1 ≠ [] ∨ (splitPoint cs).2 ≠ []) := by
  rcases splitPoint_cases cs with ⟨hsplit, hpoint⟩ | ⟨whole, fraction, rfl, hpoint, hsplit⟩
  · rw [hsplit, plain_digits hpoint]
    simp
  · rw [hsplit, plain_point hpoint]

/-! ### What is read -/

theorem ofChars?_of_plain (h : Plain cs) : ofChars? cs = some (ofDigits (splitPoint cs).1 (splitPoint cs).2) := by
  obtain ⟨hw, hf, hne⟩ := (plain_iff cs).mp h
  have hempty : ((splitPoint cs).1.isEmpty && (splitPoint cs).2.isEmpty) = false := by
    rw [Bool.and_eq_false_iff]
    simpa using hne
  simp [ofChars?, hempty, List.all_eq_true.mpr hw, List.all_eq_true.mpr hf]

theorem plain_of_ofChars? (h : ofChars? cs = some a) : Plain cs := by
  rw [plain_iff]
  simp only [ofChars?] at h
  split at h
  · cases h
  · rename_i hne
    split at h
    · rename_i hd
      rw [Bool.and_eq_true, List.all_eq_true, List.all_eq_true] at hd
      refine ⟨hd.1, hd.2, ?_⟩
      simpa [-not_and, not_and_or] using hne
    · cases h

theorem ofChars?_eq_some_iff : ofChars? cs = some a ↔ Plain cs ∧ a.value = written cs := by
  have hvalue : (ofDigits (splitPoint cs).1 (splitPoint cs).2).value = written cs := by
    rw [ofDigits, value_ofScaled, written_eq, length_fraction_splitPoint]
  constructor
  · intro h
    have hplain := plain_of_ofChars? h
    rw [ofChars?_of_plain hplain] at h
    cases h
    exact ⟨hplain, hvalue⟩
  · rintro ⟨hplain, ha⟩
    rw [ofChars?_of_plain hplain, value_injective (hvalue.trans ha.symm)]

theorem parse_eq_ok_iff : parse s = .ok a ↔ Plain (Text.trim s.toList) ∧ a.value = written (Text.trim s.toList) := by
  rw [← ofChars?_eq_some_iff, parse]
  split
  · rename_i h
    simp [h]
  · rename_i h
    simp [h]

/-! ### How an amount is written -/

theorem written_chars (a : DecimalAmount) : Plain a.chars ∧ a.value = written a.chars :=
  ofChars?_eq_some_iff.mp a.ofChars?_chars

theorem places_chars (a : DecimalAmount) : places a.chars = a.scale := by
  have hdigits := a.isDecimal.wholeDigits
  rw [← length_fraction_splitPoint, chars_eq, joined]
  split
  · rename_i hnil
    rw [splitPoint_digits hdigits, ← a.length_fraction, hnil]
  · rw [splitPoint_point hdigits, a.length_fraction]

/-- No text writes an amount with fewer digits after the point. -/
theorem scale_le_places (h : a.value = written cs) : a.scale ≤ places cs := by
  apply scale_le_of_count (u := ⟨Nat.ofDigitChars 10 ((splitPoint cs).1 ++ (splitPoint cs).2) 0⟩)
  rw [h, written_eq]
  field_simp

theorem isZero_iff (a : DecimalAmount) : a.isZero = true ↔ a.value = 0 := by
  rw [isZero, beq_iff_eq, value, div_eq_zero_iff, Nat.cast_eq_zero]
  simp

/-! ### Reading is exact -/

structure Exactly (s : String) : Prop where
  accepted_iff : (∃ a, parse s = .ok a) ↔ Plain (Text.trim s.toList)
  /-- What is not accepted is refused with the text as it was given, white space and all. -/
  refused : ¬ Plain (Text.trim s.toList) → parse s = .error (.decimal s)
  value : ∀ a, parse s = .ok a → a.value = written (Text.trim s.toList)
  /-- An amount is shown by the one text that has no nought too many. -/
  normal : ∀ a, parse s = .ok a → a.text = String.ofList (joined a.whole a.fraction) ∧
    IsDecimal a.whole a.fraction (written (Text.trim s.toList))
  same : ∀ t a b, parse s = .ok a → parse t = .ok b →
    (a = b ↔ written (Text.trim s.toList) = written (Text.trim t.toList))
  shown : ∀ a, parse s = .ok a → parse a.text = .ok a
  zero : ∀ a, parse s = .ok a → (a.isZero = true ↔ written (Text.trim s.toList) = 0)
  /-- The scale is the least number of places in which the number can be written. -/
  scale : ∀ a, parse s = .ok a →
    IsLeast {n | ∃ cs, Plain cs ∧ written cs = written (Text.trim s.toList) ∧ places cs = n} a.scale

theorem exists_of_plain (h : Plain (Text.trim s.toList)) : ∃ a, parse s = .ok a := by
  refine ⟨ofDigits (splitPoint (Text.trim s.toList)).1 (splitPoint (Text.trim s.toList)).2, ?_⟩
  rw [parse, ofChars?_of_plain h]

/-- Whatever the text is, it is read as the number that it writes, or refused if it writes none. -/
theorem parse_exact (s : String) : Exactly s where
  accepted_iff := by
    constructor
    · rintro ⟨a, ha⟩
      exact (parse_eq_ok_iff.mp ha).1
    · exact exists_of_plain
  refused := by
    intro h
    rw [parse]
    split
    · rename_i a ha
      exact absurd (plain_of_ofChars? ha) h
    · rfl
  value := by
    intro a ha
    exact (parse_eq_ok_iff.mp ha).2
  normal := by
    intro a ha
    rw [← (parse_eq_ok_iff.mp ha).2, text, chars_eq]
    exact ⟨rfl, a.isDecimal⟩
  same := by
    intro t a b ha hb
    rw [← (parse_eq_ok_iff.mp ha).2, ← (parse_eq_ok_iff.mp hb).2]
    exact ⟨congrArg DecimalAmount.value, value_injective⟩
  shown := by
    intro a _
    exact a.parse_text
  zero := by
    intro a ha
    rw [← (parse_eq_ok_iff.mp ha).2, isZero_iff]
  scale := by
    intro a ha
    have hvalue := (parse_eq_ok_iff.mp ha).2
    obtain ⟨hplain, hwritten⟩ := a.written_chars
    constructor
    · exact ⟨a.chars, hplain, hwritten.symm.trans hvalue, a.places_chars⟩
    · rintro n ⟨cs, -, hcs, rfl⟩
      exact scale_le_places (hvalue.trans hcs.symm)

end DecimalAmount
end PasskeySession
