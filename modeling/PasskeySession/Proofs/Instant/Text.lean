import PasskeySession.Instant.Reader
import PasskeySession.Instant.Writer
import PasskeySession.Proofs.Amount.Text
import PasskeySession.Proofs.Instant.Calendar

/-! # Instants that are written

Of the years from 0 to 9999 an instant is written so that it reads back. Other years are written with a sign,
which no reading takes together with a zone. -/

namespace PasskeySession

/-- An instant of a clock that counts nanoseconds, and that may go beyond a second only in the last of a minute. -/
def Instant.Proper (t : Instant) : Prop :=
  t.nanos < 1000000000 ∨ (t.nanos < 2000000000 ∧ t.seconds % 60 = 59)

/-- An instant of a year that is written with four digits. -/
def Instant.Plain (t : Instant) : Prop := 0 ≤ t.toWallClock.date.year ∧ t.toWallClock.date.year ≤ 9999

instance (t : Instant) : Decidable t.Plain := inferInstanceAs (Decidable (_ ∧ _))

namespace WallClock

/-- The fields of a clock have two digits, and the fraction nine. -/
structure Narrow (w : WallClock) : Prop where
  month : w.date.month < 100
  day : w.date.day < 100
  hour : w.hour < 24
  minute : w.minute < 60
  second : w.second ≤ 60
  nanos : w.nanos < 1000000000

end WallClock

namespace Instant
open DecimalAmount (padded)
variable {t : Instant} {ds rest : List Char}

/-! ### The clock of an instant -/

theorem narrow_toWallClock (h : t.Proper) : t.toWallClock.Narrow := by
  have hdate := Date.valid_ofDays (t.seconds / 86400)
  have hmonth := Date.month_le hdate
  have hday := Date.day_le hdate
  unfold Proper at h
  constructor <;> simp only [toWallClock] <;> omega

theorem toInstant_toWallClock (h : t.Proper) : t.toWallClock.toInstant 0 = t := by
  have hdays : t.toWallClock.date.toDays = t.seconds / 86400 := Date.toDays_ofDays (t.seconds / 86400)
  have hhour : t.toWallClock.hour = (t.seconds % 86400).toNat / 3600 := rfl
  have hminute : t.toWallClock.minute = (t.seconds % 86400).toNat / 60 % 60 := rfl
  have hsecond : t.toWallClock.second = (t.seconds % 86400).toNat % 60 + t.nanos / 1000000000 := rfl
  have hnanos : t.toWallClock.nanos = t.nanos % 1000000000 := rfl
  generalize t.toWallClock = w at *
  unfold Proper at h
  have hseconds : w.date.toDays * 86400 + (w.hour * 3600 + w.minute * 60 + min w.second 59 : Nat) - 0 = t.seconds := by
    omega
  have hrest : (if w.second = 60 then w.nanos + 1000000000 else w.nanos) = t.nanos := by
    split <;> omega
  unfold WallClock.toInstant
  dsimp only
  rw [hseconds, hrest]

/-! ### Fields -/

theorem scanDigits_append (most n : Nat) (hd : ∀ c ∈ ds, c.isDigit = true) (hlen : ds.length ≤ most)
    (hstop : ds.length = most ∨ ∀ c ∈ rest.head?, c.isDigit = false) :
    scanDigits most n (ds ++ rest) = (most - ds.length, Nat.ofDigitChars 10 ds n, rest) := by
  induction ds generalizing most n with
  | nil =>
    cases most with
    | zero => rfl
    | succ most =>
      cases rest with
      | nil => rfl
      | cons c rest =>
        have hc := (hstop.resolve_left (by simp)) c rfl
        simp [scanDigits, hc]
  | cons c ds ih =>
    cases most with
    | zero => cases hlen
    | succ most =>
      have hc := hd c List.mem_cons_self
      rw [List.cons_append, scanDigits, if_pos hc,
        ih most _ (fun d hd' => hd d (List.mem_cons_of_mem c hd')) (Nat.le_of_succ_le_succ hlen)
          (hstop.imp_left Nat.succ.inj), Text.ofDigitChars_cons, List.length_cons, Nat.succ_sub_succ]

theorem char_cons (c : Char) (cs : List Char) : char c (c :: cs) = some cs := if_pos rfl

/-- A number that fills its field. -/
theorem number_padded {least length n : Nat} (hleast : least ≤ length) (hpos : 0 < length)
    (hn : n < Nat.pow 10 length) (rest : List Char) :
    number least length (padded length n ++ rest) = some (n, rest) := by
  have hlen := DecimalAmount.length_padded hpos hn
  have hdigits := DecimalAmount.isDigit_padded length n
  rw [number, scanDigits_append length 0 hdigits (Nat.le_of_eq hlen) (Or.inl hlen), hlen, DecimalAmount.ofDigitChars_padded]
  simp [hleast]

theorem number_two {n : Nat} (hn : n < 100) (rest : List Char) : number 2 2 (padded 2 n ++ rest) = some (n, rest) :=
  number_padded (Nat.le_refl 2) (by decide) hn rest

theorem field_padded {n : Nat} (hn : n < 100) (rest : List Char) : field (padded 2 n ++ rest) = some (n, rest) := by
  have hlen := DecimalAmount.le_length_padded 2 n
  have hdigit := DecimalAmount.isDigit_padded 2 n
  have hread : number 1 2 (padded 2 n ++ rest) = some (n, rest) := number_padded (by decide) (by decide) hn rest
  cases hp : padded 2 n with
  | nil => rw [hp] at hlen; cases hlen
  | cons c ds =>
    have hblank := Text.isBlank_of_isDigit (hdigit c (by simp [hp]))
    rw [hp] at hread
    rw [field, List.cons_append, List.dropWhile_cons_of_neg (by simp [hblank]), ← List.cons_append, hread]

theorem longNumber_padded {length n : Nat} (hpos : 0 < length) (hrest : ∀ c ∈ rest.head?, c.isDigit = false) :
    longNumber (padded length n ++ rest) = some (n, rest) := by
  have hlen := DecimalAmount.le_length_padded length n
  have hscan := scanDigits_append (padded length n ++ rest).length 0 (DecimalAmount.isDigit_padded length n)
    (by rw [List.length_append]; omega) (Or.inr hrest)
  rw [longNumber, number, hscan, DecimalAmount.ofDigitChars_padded]
  simp only [List.length_append]
  rw [if_pos (by omega)]

/-! ### Fractions -/

theorem fraction_padded {length n : Nat} (hpos : 0 < length) (hlen : length ≤ 9) (hn : n < Nat.pow 10 length)
    (hrest : ∀ c ∈ rest.head?, c.isDigit = false) :
    fraction (padded length n ++ rest) = some (n * Nat.pow 10 (9 - length), rest) := by
  have hlength := DecimalAmount.length_padded hpos hn
  have hscan := scanDigits_append 9 0 (DecimalAmount.isDigit_padded length n) (by omega) (Or.inr hrest)
  have hdrop : rest.dropWhile Char.isDigit = rest := by
    cases rest with
    | nil => rfl
    | cons c rest => simp [hrest c rfl]
  rw [fraction, hscan, hlength, DecimalAmount.ofDigitChars_padded]
  dsimp only
  rw [if_neg (by omega), hdrop]

theorem optionalFraction_point {length n : Nat} (hpos : 0 < length) (hlen : length ≤ 9) (hn : n < Nat.pow 10 length)
    (hrest : ∀ c ∈ rest.head?, c.isDigit = false) :
    optionalFraction (("." ++ digits length n).toList ++ rest) = some (n * Nat.pow 10 (9 - length), rest) := by
  have hchars : ("." ++ digits length n).toList ++ rest = '.' :: (padded length n ++ rest) := by
    simp [digits, String.toList_append]
  rw [hchars, optionalFraction, fraction_padded hpos hlen hn hrest]

/-- The fraction reads as its nanoseconds, if neither a digit nor a point follows. -/
theorem optionalFraction_text {nanos : Nat} (hn : nanos < 1000000000)
    (hrest : ∀ c ∈ rest.head?, c.isDigit = false ∧ c ≠ '.') :
    optionalFraction ((fractionText nanos).toList ++ rest) = some (nanos, rest) := by
  have hdigit : ∀ c ∈ rest.head?, c.isDigit = false := fun c hc => (hrest c hc).1
  unfold fractionText
  split
  · rename_i hzero
    subst hzero
    cases rest with
    | nil => rfl
    | cons c rest =>
      have hc := (hrest c rfl).2
      simp only [String.toList_empty, List.nil_append, optionalFraction]
      split <;> simp_all
  · split
    · have hlt : nanos / 1000000 < Nat.pow 10 3 := by
        change nanos / 1000000 < 1000
        omega
      have hvalue : nanos / 1000000 * Nat.pow 10 (9 - 3) = nanos := by
        change nanos / 1000000 * 1000000 = nanos
        omega
      rw [optionalFraction_point (by decide) (by decide) hlt hdigit, hvalue]
    · split
      · have hlt : nanos / 1000 < Nat.pow 10 6 := by
          change nanos / 1000 < 1000000
          omega
        have hvalue : nanos / 1000 * Nat.pow 10 (9 - 6) = nanos := by
          change nanos / 1000 * 1000 = nanos
          omega
        rw [optionalFraction_point (by decide) (by decide) hlt hdigit, hvalue]
      · rw [optionalFraction_point (by decide) (by decide) hn hdigit]
        simp

/-! ### Texts -/

/-- The zone of every text. -/
def zoneChars : List Char := ['+', '0', '0', ':', '0', '0']

/-- What a text has after the hour and the minute. -/
def secondChars (w : WallClock) : List Char := padded 2 w.second ++ ((fractionText w.nanos).toList ++ zoneChars)

def minuteChars (w : WallClock) : List Char :=
  padded 2 w.hour ++ ':' :: (padded 2 w.minute ++ ':' :: secondChars w)

/-- What a text has after the year. -/
def monthChars (w : WallClock) : List Char :=
  '-' :: (padded 2 w.date.month ++ '-' :: (padded 2 w.date.day ++ 'T' :: minuteChars w))

theorem toList_text (t : Instant) :
    t.text.toList = (yearText t.toWallClock.date.year).toList ++ monthChars t.toWallClock := by
  simp [text, digits, monthChars, minuteChars, secondChars, zoneChars, String.toList_append]

theorem isBlank_padded (length n : Nat) : ∀ c ∈ padded length n, Text.isBlank c = false :=
  fun c hc => Text.isBlank_of_isDigit (DecimalAmount.isDigit_padded length n c hc)

theorem isBlank_yearText (year : Int) : ∀ c ∈ (yearText year).toList, Text.isBlank c = false := by
  have hdigits := isBlank_padded 4
  unfold yearText digits
  split
  · simpa using hdigits year.toNat
  · split <;> simpa using ⟨by decide, hdigits year.natAbs⟩

theorem isBlank_fractionText (nanos : Nat) : ∀ c ∈ (fractionText nanos).toList, Text.isBlank c = false := by
  have hpoint : ∀ length n, ∀ c ∈ ("." ++ digits length n).toList, Text.isBlank c = false := by
    intro length n
    simpa [digits] using ⟨by decide, isBlank_padded length n⟩
  unfold fractionText
  split
  · rintro _ ⟨⟩
  · split
    · exact hpoint 3 _
    · split
      · exact hpoint 6 _
      · exact hpoint 9 _

/-- No text has white space. -/
theorem isBlank_text (t : Instant) : ∀ c ∈ t.text.toList, Text.isBlank c = false := by
  have hmark : Text.isBlank '-' = false ∧ Text.isBlank ':' = false ∧ Text.isBlank 'T' = false := by decide
  have hzone : ∀ c ∈ zoneChars, Text.isBlank c = false := by simp [zoneChars, Text.isBlank]
  have hyear := isBlank_yearText t.toWallClock.date.year
  have hfraction := isBlank_fractionText t.toWallClock.nanos
  have htwo := isBlank_padded 2
  simp only [toList_text, monthChars, minuteChars, secondChars, List.forall_mem_append, List.forall_mem_cons]
  exact ⟨hyear, hmark.1, htwo _, hmark.1, htwo _, hmark.2.2, htwo _, hmark.2.1, htwo _, hmark.2.1, htwo _,
    hfraction, hzone⟩

/-! ### Years with four digits -/

theorem strict?_chars {w : WallClock} {year : Nat} (h : w.Narrow) (hyear : w.date.year = year) (hlt : year < 10000)
    (hvalid : w.valid = true) : strict? (padded 4 year ++ monthChars w) = some (w.toInstant 0) := by
  have hfour : number 4 4 (padded 4 year ++ monthChars w) = some (year, monthChars w) :=
    number_padded (Nat.le_refl 4) (by decide) hlt _
  have hfraction : optionalFraction ((fractionText w.nanos).toList ++ zoneChars) = some (w.nanos, zoneChars) :=
    optionalFraction_text h.nanos (by rintro _ ⟨⟩; decide)
  have hmonth := number_two h.month
  have hday := number_two h.day
  have hhour := number_two (Nat.lt_trans h.hour (by decide))
  have hminute := number_two (Nat.lt_trans h.minute (by decide))
  have hsecond := number_two (Nat.lt_of_le_of_lt h.second (by decide))
  have hzone : zone zoneChars = some (0, []) := by decide
  rw [strict?, hfour]
  simp only [Option.bind_eq_bind, Option.bind_some, monthChars, char_cons, hmonth]
  simp only [Option.bind_some, char_cons, hday]
  simp only [Option.bind_some, char_cons, Option.some_or, minuteChars, hhour]
  simp only [Option.bind_some, char_cons, hminute]
  simp only [Option.bind_some, secondChars, hsecond]
  simp only [Option.bind_some, hfraction, hzone]
  rw [← hyear]
  exact if_pos hvalid

theorem valid_toWallClock (h : t.Proper) (hplain : t.Plain) : t.toWallClock.valid = true := by
  have hnarrow := narrow_toWallClock h
  have hdate : t.toWallClock.date.valid = true := Date.valid_ofDays _
  have hyear := hplain
  unfold Plain at hyear
  simp only [WallClock.valid, WallClock.yearInRange, hdate, Bool.and_eq_true, decide_eq_true_eq]
  exact ⟨⟨⟨⟨by omega, trivial⟩, hnarrow.hour⟩, hnarrow.minute⟩, hnarrow.second⟩

/-- An instant of a plain year is read back. -/
theorem parse_text (h : t.Proper) (hplain : t.Plain) : parse t.text = .ok t := by
  have hfour : 0 ≤ t.toWallClock.date.year ∧ t.toWallClock.date.year ≤ 9999 := hplain
  obtain ⟨year, hyear⟩ := Int.eq_ofNat_of_zero_le hfour.1
  have hlt : year < 10000 := by omega
  have hchars : t.text.toList = padded 4 year ++ monthChars t.toWallClock := by
    rw [toList_text, yearText, if_pos hfour, digits, String.toList_ofList, hyear]
    rfl
  have hread := strict?_chars (narrow_toWallClock h) hyear hlt (valid_toWallClock h hplain)
  rw [parse, Text.trim_eq_self t.isBlank_text, hchars, ofChars?, hread, toInstant_toWallClock h]
  rfl

/-! ### Years with a sign -/

/-- A sign is not the beginning of a year of four digits. -/
theorem strict?_sign {c : Char} (cs : List Char) (hc : c.isDigit = false) : strict? (c :: cs) = none := by
  have hyear : number 4 4 (c :: cs) = none := by simp [number, scanDigits, hc]
  rw [strict?, hyear]
  rfl

theorem yearField_sign {c : Char} (hc : c = '-' ∨ c = '+') (n : Nat) (hrest : ∀ c ∈ rest.head?, c.isDigit = false) :
    ∃ year, yearField (c :: (padded 4 n ++ rest)) = some (year, rest) := by
  have hlong : longNumber (padded 4 n ++ rest) = some (n, rest) := longNumber_padded (by decide) hrest
  rcases hc with rfl | rfl
  · exact ⟨-n, by simp [yearField, Text.isBlank, hlong]⟩
  · exact ⟨n, by simp [yearField, Text.isBlank, hlong]⟩

theorem finish_cons (w : WallClock) (c : Char) (cs : List Char) : finish w (c :: cs) = none := rfl

theorem finish_zone (w : WallClock) : finish w zoneChars = none := rfl

/-- After a date, none of the loose ways reads a zone. -/
theorem loose?_zone {cs : List Char} {w : WallClock} {date : Date} (h : w.Narrow)
    (hdate : dateFields cs = some (date, 'T' :: minuteChars w)) : loose? cs = none := by
  have hhour := field_padded (Nat.lt_trans h.hour (by decide))
  have hminute := field_padded (Nat.lt_trans h.minute (by decide))
  have hsecond := field_padded (Nat.lt_of_le_of_lt h.second (by decide))
  have hfraction : optionalFraction ((fractionText w.nanos).toList ++ zoneChars) = some (w.nanos, zoneChars) :=
    optionalFraction_text h.nanos (by rintro _ ⟨⟩; decide)
  have hminutes : minuteFields (minuteChars w) = some (w.hour, w.minute, ':' :: secondChars w) := by
    simp [minuteFields, minuteChars, hhour, hminute, char_cons]
  have hletter : minuteFields ('T' :: minuteChars w) = none := by
    simp [minuteFields, field, Text.isBlank, number, scanDigits]
  have hsecondField : field (secondChars w) = some (w.second, (fractionText w.nanos).toList ++ zoneChars) := hsecond _
  have htheSecond : toTheSecond? cs = none := by
    simp [toTheSecond?, hdate, char_cons, hminutes, hsecondField, hfraction, finish_zone]
  have htheMinute : toTheMinute? cs = none := by
    simp [toTheMinute?, hdate, char_cons, hminutes, finish_cons]
  have hspaced : spaced? cs = none := by
    simp [spaced?, hdate, Text.isBlank, hletter]
  rw [loose?, htheSecond, htheMinute, hspaced]
  rfl

/-- An instant of any other year is not read back. -/
theorem parse_text_of_not_plain (h : t.Proper) (hplain : ¬ t.Plain) : parse t.text = .error (.timestamp t.text) := by
  have hnarrow := narrow_toWallClock h
  have hsigned : ¬ (0 ≤ t.toWallClock.date.year ∧ t.toWallClock.date.year ≤ 9999) := hplain
  obtain ⟨c, hc, hchars⟩ : ∃ c, (c = '-' ∨ c = '+') ∧
      t.text.toList = c :: (padded 4 t.toWallClock.date.year.natAbs ++ monthChars t.toWallClock) := by
    rw [toList_text, yearText, if_neg hsigned]
    split
    · exact ⟨'-', Or.inl rfl, by simp [digits]⟩
    · exact ⟨'+', Or.inr rfl, by simp [digits]⟩
  have hdigit : c.isDigit = false := by rcases hc with rfl | rfl <;> rfl
  have hdash : ∀ c ∈ (monthChars t.toWallClock).head?, c.isDigit = false := by
    rintro _ ⟨⟩
    rfl
  obtain ⟨year, hyear⟩ := yearField_sign hc t.toWallClock.date.year.natAbs hdash
  have hmonth := field_padded hnarrow.month
  have hday := field_padded hnarrow.day
  have hdate : dateFields t.text.toList =
      some (⟨year, t.toWallClock.date.month, t.toWallClock.date.day⟩, 'T' :: minuteChars t.toWallClock) := by
    rw [hchars, dateFields, hyear]
    simp [monthChars, char_cons, hmonth, hday]
  have hloose := loose?_zone hnarrow hdate
  rw [parse, Text.trim_eq_self t.isBlank_text, ofChars?, hloose, hchars, strict?_sign _ hdigit]
  rfl

/-! ### What is read -/

theorem scanDigits_lt (most n : Nat) (cs : List Char) :
    (scanDigits most n cs).2.1 * Nat.pow 10 (scanDigits most n cs).1 < (n + 1) * Nat.pow 10 most := by
  have hpos : ∀ k, 0 < Nat.pow 10 k := fun k => Nat.pow_pos (by decide)
  induction most generalizing n cs with
  | zero => simp [scanDigits]
  | succ most ih =>
    cases cs with
    | nil => exact Nat.mul_lt_mul_of_pos_right (Nat.lt_succ_self n) (hpos _)
    | cons c cs =>
      rw [scanDigits]
      split
      · rename_i hc
        have hle := Text.toNat_of_isDigit hc
        have hdigit : n * 10 + (c.toNat - 48) + 1 ≤ (n + 1) * 10 := by omega
        calc (scanDigits most (n * 10 + (c.toNat - 48)) cs).2.1 *
              Nat.pow 10 (scanDigits most (n * 10 + (c.toNat - 48)) cs).1
            < (n * 10 + (c.toNat - 48) + 1) * Nat.pow 10 most := ih _ cs
          _ ≤ (n + 1) * 10 * Nat.pow 10 most := Nat.mul_le_mul_right _ hdigit
          _ = (n + 1) * Nat.pow 10 (most + 1) := by
            rw [Nat.mul_assoc, Nat.mul_comm 10]
            rfl
      · exact Nat.mul_lt_mul_of_pos_right (Nat.lt_succ_self n) (hpos _)

theorem fraction_lt {cs : List Char} {nanos : Nat} (h : fraction cs = some (nanos, rest)) : nanos < 1000000000 := by
  have hlt := scanDigits_lt 9 0 cs
  unfold fraction at h
  dsimp only at h
  split at h
  · cases h
  · cases h
    exact Nat.lt_of_lt_of_le hlt (by decide)

theorem optionalFraction_lt {cs : List Char} {nanos : Nat} (h : optionalFraction cs = some (nanos, rest)) :
    nanos < 1000000000 := by
  unfold optionalFraction at h
  split at h
  · exact fraction_lt h
  · cases h
    decide

/-- A zone is a whole number of minutes. -/
theorem zone_mod {cs : List Char} {offset : Int} (h : zone cs = some (offset, rest)) : offset % 60 = 0 := by
  have hsize : ∀ {cs rest : List Char} {size : Int}, offsetSize cs = some (size, rest) → size % 60 = 0 := by
    intro cs rest size h
    simp only [offsetSize, Option.bind_eq_bind, Option.bind_eq_some_iff] at h
    obtain ⟨⟨hours, _⟩, -, _, -, ⟨minutes, _⟩, -, h⟩ := h
    dsimp only at h
    split at h
    · cases h
      omega
    · cases h
  unfold zone at h
  split at h
  · cases h
  · split at h
    · cases h
      rfl
    · split at h
      · exact hsize h
      · split at h
        · obtain ⟨⟨size, rest⟩, hs, heq⟩ := Option.map_eq_some_iff.mp h
          cases heq
          have := hsize hs
          omega
        · cases h

theorem proper_toInstant {w : WallClock} {offset : Int} (hnanos : w.nanos < 1000000000) (hoffset : offset % 60 = 0) :
    (w.toInstant offset).Proper := by
  unfold WallClock.toInstant Proper
  dsimp only
  split
  · right
    omega
  · left
    exact hnanos

theorem proper_of_finish {w : WallClock} (hnanos : w.nanos < 1000000000) (h : finish w rest = some t) : t.Proper := by
  unfold finish at h
  split at h
  · cases h
    exact proper_toInstant hnanos rfl
  · cases h

theorem proper_of_strict? {cs : List Char} (h : strict? cs = some t) : t.Proper := by
  simp only [strict?, Option.bind_eq_bind, Option.bind_eq_some_iff] at h
  obtain ⟨_, -, _, -, _, -, _, -, _, -, _, -, _, -, _, -, _, -, _, -, _, -, ⟨nanos, _⟩, hnanos, ⟨offset, _⟩, hzone, h⟩ := h
  dsimp only at h
  split at h
  · cases h
    exact proper_toInstant (optionalFraction_lt hnanos) (zone_mod hzone)
  · cases h

theorem proper_of_loose? {cs : List Char} (h : loose? cs = some t) : t.Proper := by
  rcases Option.or_eq_some_iff.mp h with h | ⟨-, h⟩
  · simp only [toTheSecond?, Option.bind_eq_bind, Option.bind_eq_some_iff] at h
    obtain ⟨_, -, _, -, _, -, _, -, _, -, ⟨nanos, _⟩, hnanos, h⟩ := h
    have hlt : nanos < 1000000000 := optionalFraction_lt hnanos
    exact proper_of_finish hlt h
  rcases Option.or_eq_some_iff.mp h with h | ⟨-, h⟩
  · simp only [toTheMinute?, Option.bind_eq_bind, Option.bind_eq_some_iff] at h
    obtain ⟨_, -, _, -, _, -, h⟩ := h
    exact proper_of_finish (Nat.zero_lt_succ _) h
  · simp only [spaced?, Option.bind_eq_bind, Option.bind_eq_some_iff] at h
    obtain ⟨_, -, _, -, _, -, _, -, h⟩ := h
    exact proper_of_finish (Nat.zero_lt_succ _) h

/-- Whatever is read is an instant of a clock. -/
theorem proper_of_parse {text : String} (h : parse text = .ok t) : t.Proper := by
  unfold parse at h
  split at h
  · rename_i hread
    cases h
    rcases Option.or_eq_some_iff.mp hread with hread | ⟨-, hread⟩
    · exact proper_of_strict? hread
    · exact proper_of_loose? hread
  · cases h

end Instant
end PasskeySession
