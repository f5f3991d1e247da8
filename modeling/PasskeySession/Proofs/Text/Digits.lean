import PasskeySession.Identifier
import PasskeySession.Text.Integer

/-! # Digits that are written read back

Numbers below a bound, which are read from nothing but their digits, and words of bytes, and that no trimming
takes a character that is not white space. -/

namespace PasskeySession
namespace Text
variable {c : Char} {cs : List Char} {n bound : Nat}

theorem toNat_of_isDigit (h : c.isDigit = true) : 48 ≤ c.toNat ∧ c.toNat ≤ 57 := by
  simpa [Char.isDigit, UInt32.le_iff_toNat_le] using h

theorem isBlank_of_isDigit (h : c.isDigit = true) : isBlank c = false := by
  have hle := toNat_of_isDigit h
  cases hb : isBlank c with
  | false => rfl
  | true =>
    simp only [isBlank, Bool.or_eq_true, Bool.and_eq_true, decide_eq_true_eq, beq_iff_eq] at hb
    omega

theorem dropWhile_isBlank (h : ∀ c ∈ cs, isBlank c = false) : cs.dropWhile isBlank = cs := by
  cases cs with
  | nil => rfl
  | cons c cs => simp [h c List.mem_cons_self]

/-- A text without white space is left as it is. -/
theorem trim_eq_self (h : ∀ c ∈ cs, isBlank c = false) : trim cs = cs := by
  have hreverse : cs.reverse.dropWhile isBlank = cs.reverse :=
    dropWhile_isBlank fun c hc => h c (List.mem_reverse.mp hc)
  rw [trim, dropWhile_isBlank h, dropEndWhile, hreverse, List.reverse_reverse]

theorem ofDigitChars_cons (c : Char) (cs : List Char) (n : Nat) :
    Nat.ofDigitChars 10 (c :: cs) n = Nat.ofDigitChars 10 cs (n * 10 + (c.toNat - 48)) := by
  rw [Nat.ofDigitChars_cons, Nat.mul_comm]
  rfl

/-- What the digits of a number grow to is not below what they begin with. -/
theorem le_ofDigitChars (cs : List Char) (n : Nat) : n ≤ Nat.ofDigitChars 10 cs n := by
  induction cs generalizing n with
  | nil => exact Nat.le_refl n
  | cons c cs ih =>
    rw [ofDigitChars_cons]
    have := ih (n * 10 + (c.toNat - 48))
    omega

theorem digitsBelow_eq (h : ∀ c ∈ cs, c.isDigit = true) (hlt : Nat.ofDigitChars 10 cs n < bound) :
    digitsBelow bound n cs = .ok (Nat.ofDigitChars 10 cs n) := by
  induction cs generalizing n with
  | nil => rfl
  | cons c cs ih =>
    rw [ofDigitChars_cons] at hlt ⊢
    have hle := le_ofDigitChars cs (n * 10 + (c.toNat - 48))
    rw [digitsBelow, if_pos (h c List.mem_cons_self), if_pos (Nat.lt_of_le_of_lt hle hlt)]
    exact ih (fun d hd => h d (List.mem_cons_of_mem c hd)) hlt

theorem isDigit_toDigits (n : Nat) : ∀ c ∈ Nat.toDigits 10 n, c.isDigit = true :=
  fun _ => Nat.isDigit_of_mem_toDigits (by decide) (by decide)

/-- The digits of a number below the bound read as the number. -/
theorem naturalBelow_toDigits (h : n < bound) : naturalBelow bound (Nat.toDigits 10 n) = .ok n := by
  have hdigits := isDigit_toDigits n
  have hread : digitsBelow bound 0 (Nat.toDigits 10 n) = .ok n := by
    rw [digitsBelow_eq hdigits (by rwa [Nat.ofDigitChars_ten_toDigits]), Nat.ofDigitChars_ten_toDigits]
  unfold naturalBelow
  split
  case h_1 hnil => exact absurd hnil Nat.toDigits_ne_nil
  case h_2 hplus => exact absurd (hdigits '+' (by simp [hplus])) (by decide)
  case h_3 hplus => exact absurd (hdigits '+' (by simp [hplus])) (by decide)
  case h_4 => exact hread

/-- The number that digits write, with or without a plus sign before them. -/
def Counts (cs : List Char) (n : Nat) : Prop :=
  ∃ ds, (cs = ds ∨ cs = '+' :: ds) ∧ ds ≠ [] ∧ (∀ c ∈ ds, c.isDigit = true) ∧ Nat.ofDigitChars 10 ds 0 = n

theorem digitsBelow_eq_ok_iff {m : Nat} (hn : n < bound) :
    digitsBelow bound n cs = .ok m ↔ (∀ c ∈ cs, c.isDigit = true) ∧ Nat.ofDigitChars 10 cs n = m ∧ m < bound := by
  constructor
  · intro h
    induction cs generalizing n with
    | nil =>
      cases h
      exact ⟨by rintro _ ⟨⟩, rfl, hn⟩
    | cons c cs ih =>
      rw [digitsBelow] at h
      split at h
      · rename_i hc
        dsimp only at h
        split at h
        · rename_i hlt
          obtain ⟨hcs, hm, hlt⟩ := ih hlt h
          exact ⟨List.forall_mem_cons.mpr ⟨hc, hcs⟩, by rw [ofDigitChars_cons, hm], hlt⟩
        · cases h
      · cases h
  · rintro ⟨hcs, rfl, hlt⟩
    exact digitsBelow_eq hcs hlt

/-- A text is read as a number below the bound exactly if it writes one. -/
theorem naturalBelow_eq_ok_iff (hpos : 0 < bound) : naturalBelow bound cs = .ok n ↔ Counts cs n ∧ n < bound := by
  have hplus : ∀ ds : List Char, ¬ ∀ c ∈ '+' :: ds, c.isDigit = true :=
    fun ds h => absurd (h '+' List.mem_cons_self) (by decide)
  unfold naturalBelow Counts
  split
  case h_1 =>
    refine iff_of_false (by rintro ⟨⟩) ?_
    rintro ⟨⟨ds, rfl | ⟨⟨⟩⟩, hne, -⟩, -⟩
    exact hne rfl
  case h_2 =>
    refine iff_of_false (by rintro ⟨⟩) ?_
    rintro ⟨⟨ds, rfl | h, hne, hdigits, -⟩, -⟩
    · exact hplus [] hdigits
    · exact hne (List.cons.inj h).2.symm
  case h_3 ds hne =>
    rw [digitsBelow_eq_ok_iff hpos]
    constructor
    · rintro ⟨hdigits, hvalue, hlt⟩
      exact ⟨⟨ds, Or.inr rfl, hne, hdigits, hvalue⟩, hlt⟩
    · rintro ⟨⟨ds', rfl | h, hne, hdigits, hvalue⟩, hlt⟩
      · exact absurd hdigits (hplus ds)
      · cases h
        exact ⟨hdigits, hvalue, hlt⟩
  case h_4 hnil _ hsign =>
    rw [digitsBelow_eq_ok_iff hpos]
    constructor
    · rintro ⟨hdigits, hvalue, hlt⟩
      exact ⟨⟨cs, Or.inl rfl, hnil, hdigits, hvalue⟩, hlt⟩
    · rintro ⟨⟨ds, rfl | h, hne, hdigits, hvalue⟩, hlt⟩
      · exact ⟨hdigits, hvalue, hlt⟩
      · exact absurd h (hsign ds)

theorem exists_of_mem_toHex {bs : Bytes} (h : c ∈ toHex bs) : ∃ n < 16, c = hexDigit n := by
  induction bs with
  | nil => cases h
  | cons b bs ih =>
    have hb : b.toNat < 256 := b.toNat_lt
    rcases List.mem_cons.mp h with rfl | h
    · exact ⟨b.toNat / 16, by omega, rfl⟩
    · rcases List.mem_cons.mp h with rfl | h
      · exact ⟨b.toNat % 16, by omega, rfl⟩
      · exact ih h

theorem isBlank_of_mem_toHex {bs : Bytes} (h : c ∈ toHex bs) : isBlank c = false := by
  have hdigit : ∀ n < 16, isBlank (hexDigit n) = false := by decide
  obtain ⟨n, hn, rfl⟩ := exists_of_mem_toHex h
  exact hdigit n hn

end Text

theorem Word.ofChars?_chars {n : Nat} (w : Word n) : ofChars? n w.chars = some w := by
  simp [ofChars?, chars, digits?, Text.ofHex?_toHex, ofBytes?, w.size]

/-- The text of a word reads as the word. -/
theorem Word.ofText?_text {n : Nat} (w : Word n) : ofText? n w.text = some w := by
  have hblank : ∀ c ∈ w.chars, Text.isBlank c = false := by
    intro c hc
    rcases List.mem_cons.mp hc with rfl | hc
    · decide
    · rcases List.mem_cons.mp hc with rfl | hc
      · decide
      · exact Text.isBlank_of_mem_toHex hc
  rw [ofText?, text, String.toList_ofList, Text.trim_eq_self hblank, ofChars?_chars]

theorem Address.parse_text (a : Address) : Address.parse a.text = .ok a := by
  rw [Address.parse, Word.ofText?_text]

end PasskeySession
