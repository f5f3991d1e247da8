import PasskeySession.Proofs.Amount.Accepted
import PasskeySession.Proofs.Instant.Text

/-! # Texts of instants

What texts show a date, a time and a zone, said without a reader: fields and the marks between them, once with
fields of fixed width and once with free ones. Every reader takes such a text off the front of what it reads, and
the free readers take all of it, whatever comes after it that does not prolong it. -/

namespace PasskeySession

/-- Date and time as a text shows them, with the digits that it shows after the point. -/
structure CivilTime where
  date : Date
  hour : Nat
  minute : Nat
  second : Nat
  fraction : List Char

namespace Instant

/-! ### Pieces of a text -/

/-- Digits, and the number that they write. -/
structure Digits (least most : Nat) (cs : List Char) (n : Nat) : Prop where
  digit : ∀ c ∈ cs, c.isDigit = true
  least_le : least ≤ cs.length
  le_most : cs.length ≤ most
  value : Nat.ofDigitChars 10 cs 0 = n

/-- One digit or two, after any white space. -/
inductive Field : List Char → Nat → Prop
  | mk {blanks ds : List Char} {n : Nat} (hblank : ∀ c ∈ blanks, Text.isBlank c = true) (hdigits : Digits 1 2 ds n) :
      Field (blanks ++ ds) n

/-- A year, after any white space: four digits or fewer, or any number of digits after a sign. -/
inductive Year : List Char → Int → Prop
  | plain {blanks ds : List Char} {n : Nat} (hblank : ∀ c ∈ blanks, Text.isBlank c = true)
      (hdigits : Digits 1 4 ds n) : Year (blanks ++ ds) n
  | plus {blanks ds : List Char} {n : Nat} (hblank : ∀ c ∈ blanks, Text.isBlank c = true)
      (hdigits : Digits 1 ds.length ds n) : Year (blanks ++ '+' :: ds) n
  | minus {blanks ds : List Char} {n : Nat} (hblank : ∀ c ∈ blanks, Text.isBlank c = true)
      (hdigits : Digits 1 ds.length ds n) : Year (blanks ++ '-' :: ds) (-n)

/-- The digits of a fraction, which may be missing together with the point. -/
inductive Fraction : List Char → List Char → Prop
  | none : Fraction [] []
  | point {ds : List Char} (hdigit : ∀ c ∈ ds, c.isDigit = true) (hsome : ds ≠ []) : Fraction ('.' :: ds) ds

/-- Hours and minutes that a clock is ahead of universal time, in seconds. -/
inductive OffsetSize : List Char → Int → Prop
  | mk {hs ms : List Char} {hours minutes : Nat} (hhours : Digits 2 2 hs hours) (hminutes : Digits 2 2 ms minutes)
      (hhour : hours < 24) (hminute : minutes < 60) :
      OffsetSize (hs ++ ':' :: ms) ((hours * 60 + minutes) * 60 : Nat)

/-- A zone: `Z`, or a sign with hours and minutes. -/
inductive Zone : List Char → Int → Prop
  | universal {c : Char} (hc : c = 'Z' ∨ c = 'z') : Zone [c] 0
  | ahead {cs : List Char} {size : Int} (hsize : OffsetSize cs size) : Zone ('+' :: cs) size
  | behind {c : Char} {cs : List Char} {size : Int} (hc : c = '-' ∨ c = '\u2212') (hsize : OffsetSize cs size) :
      Zone (c :: cs) (-size)

/-- How the year is written, and how the other fields are. -/
structure Layout where
  year : List Char → Int → Prop
  field : List Char → Nat → Prop

namespace Layout

/-- Four digits for the year and two for each other field. -/
def fixed : Layout := ⟨fun cs year => ∃ n : Nat, Digits 4 4 cs n ∧ year = n, Digits 2 2⟩

def free : Layout := ⟨Year, Field⟩

/-- The date of a text. -/
inductive Day (l : Layout) : List Char → Date → Prop
  | mk {ys ms ds : List Char} {year : Int} {month day : Nat} (hyear : l.year ys year) (hmonth : l.field ms month)
      (hday : l.field ds day) : l.Day (ys ++ '-' :: (ms ++ '-' :: ds)) ⟨year, month, day⟩

/-- The hour and the minute of a text. -/
inductive Minute (l : Layout) : List Char → Nat × Nat → Prop
  | mk {hs ms : List Char} {hour minute : Nat} (hhour : l.field hs hour) (hminute : l.field ms minute) :
      l.Minute (hs ++ ':' :: ms) (hour, minute)

/-- Date and time to the second, with what stands between them. -/
inductive Second (l : Layout) (between : List Char) : List Char → CivilTime → Prop
  | mk {ds ts ss fs digits : List Char} {date : Date} {hour minute second : Nat} (hdate : l.Day ds date)
      (htime : l.Minute ts (hour, minute)) (hsecond : l.field ss second) (hfraction : Fraction fs digits) :
      l.Second between (ds ++ (between ++ (ts ++ ':' :: (ss ++ fs)))) ⟨date, hour, minute, second, digits⟩

end Layout

/-- The nanoseconds that the first nine digits after a point tell. -/
def nanosOf (ds : List Char) : Nat := Nat.ofDigitChars 10 (ds.take 9) 0 * Nat.pow 10 (9 - (ds.take 9).length)

end Instant

/-- The clock that shows a date and time. -/
def CivilTime.clock (c : CivilTime) : WallClock := ⟨c.date, c.hour, c.minute, c.second, Instant.nanosOf c.fraction⟩

namespace Instant
variable {cs rest : List Char} {n : Nat}

/-! ### Digits -/

/-- A scan takes the digits at the front, as many as there are up to the most. -/
theorem exists_of_scanDigits (most n : Nat) (cs : List Char) : ∃ ds,
    cs = ds ++ (scanDigits most n cs).2.2 ∧ (∀ c ∈ ds, c.isDigit = true) ∧
      ds.length + (scanDigits most n cs).1 = most ∧ Nat.ofDigitChars 10 ds n = (scanDigits most n cs).2.1 ∧
      (ds.length = most ∨ ∀ c ∈ (scanDigits most n cs).2.2.head?, c.isDigit = false) := by
  induction most generalizing n cs with
  | zero => exact ⟨[], rfl, by simp, rfl, rfl, Or.inl rfl⟩
  | succ most ih =>
    cases cs with
    | nil => exact ⟨[], rfl, by simp, Nat.zero_add _, rfl, Or.inr (by rintro _ ⟨⟩)⟩
    | cons c cs =>
      rw [scanDigits]
      split
      · rename_i hc
        obtain ⟨ds, hcs, hdigit, hlength, hvalue, hstop⟩ := ih (n * 10 + (c.toNat - 48)) cs
        refine ⟨c :: ds, congrArg (c :: ·) hcs, List.forall_mem_cons.mpr ⟨hc, hdigit⟩, ?_, ?_, ?_⟩
        · rw [List.length_cons, Nat.succ_add, hlength]
        · rw [Text.ofDigitChars_cons, hvalue]
        · exact hstop.imp_left (congrArg Nat.succ)
      · rename_i hc
        refine ⟨[], rfl, by simp, Nat.zero_add _, rfl, Or.inr ?_⟩
        rintro d ⟨⟩
        exact Bool.eq_false_iff.mpr hc

theorem number_append {least most : Nat} (h : Digits least most cs n)
    (hstop : cs.length = most ∨ ∀ c ∈ rest.head?, c.isDigit = false) :
    number least most (cs ++ rest) = some (n, rest) := by
  have hle := h.le_most
  have hleast := h.least_le
  rw [number, scanDigits_append most 0 h.digit hle hstop, h.value]
  exact if_pos (by omega)

theorem number_of_width {width : Nat} (h : Digits width width cs n) (rest : List Char) :
    number width width (cs ++ rest) = some (n, rest) :=
  number_append h (Or.inl (Nat.le_antisymm h.le_most h.least_le))

theorem exists_of_number {least most : Nat} (h : number least most cs = some (n, rest)) :
    ∃ ds, cs = ds ++ rest ∧ Digits least most ds n ∧ (ds.length = most ∨ ∀ c ∈ rest.head?, c.isDigit = false) := by
  obtain ⟨ds, hcs, hdigit, hlength, hvalue, hstop⟩ := exists_of_scanDigits most 0 cs
  unfold number at h
  dsimp only at h
  split at h
  · cases h
    exact ⟨ds, hcs, ⟨hdigit, by omega, by omega, hvalue⟩, hstop⟩
  · cases h

theorem Digits.widen {least most least' most' : Nat} (h : Digits least most cs n) (hleast : least' ≤ least)
    (hmost : most ≤ most') : Digits least' most' cs n :=
  ⟨h.digit, Nat.le_trans hleast h.least_le, Nat.le_trans h.le_most hmost, h.value⟩

theorem char_eq_some_iff {c : Char} : char c cs = some rest ↔ cs = c :: rest := by
  cases cs with
  | nil => simp [char]
  | cons d cs =>
    rw [char]
    split
    · rename_i heq
      simp [heq]
    · rename_i hne
      simp [Ne.symm hne]

/-! ### Fields -/

/-- No digit follows, or two digits stand at the end. -/
def Apart (cs rest : List Char) : Prop :=
  (∀ c ∈ rest.head?, c.isDigit = false) ∨ ∃ front c d, cs = front ++ [c, d] ∧ c.isDigit = true ∧ d.isDigit = true

theorem Apart.append_left (front : List Char) (h : Apart cs rest) : Apart (front ++ cs) rest := by
  rcases h with h | ⟨before, c, d, rfl, hc, hd⟩
  · exact Or.inl h
  · exact Or.inr ⟨front ++ before, c, d, (List.append_assoc ..).symm, hc, hd⟩

theorem Digits.ne_nil {least most : Nat} (h : Digits (least + 1) most cs n) : cs ≠ [] := by
  rintro rfl
  exact absurd h.least_le (Nat.not_succ_le_zero least)

/-- White space at the front is dropped, and nothing else. -/
theorem dropWhile_blanks {blanks ds : List Char} (hblank : ∀ c ∈ blanks, Text.isBlank c = true)
    (hfirst : ∀ c ∈ ds.head?, Text.isBlank c = false) : (blanks ++ ds).dropWhile Text.isBlank = ds := by
  rw [List.dropWhile_append_of_pos hblank]
  cases ds with
  | nil => rfl
  | cons c ds => exact List.dropWhile_cons_of_neg (by simp [hfirst c rfl])

theorem exists_blanks (cs : List Char) :
    ∃ blanks, cs = blanks ++ cs.dropWhile Text.isBlank ∧ ∀ c ∈ blanks, Text.isBlank c = true :=
  ⟨cs.takeWhile Text.isBlank, List.takeWhile_append_dropWhile.symm, List.all_eq_true.mp List.all_takeWhile⟩

theorem Digits.isBlank_head? {least most : Nat} (h : Digits (least + 1) most cs n) (rest : List Char) :
    ∀ c ∈ (cs ++ rest).head?, Text.isBlank c = false := by
  cases cs with
  | nil => exact absurd rfl h.ne_nil
  | cons c cs =>
    rintro _ ⟨⟩
    exact Text.isBlank_of_isDigit (h.digit c List.mem_cons_self)

theorem field_append (h : Field cs n) (happart : Apart cs rest) : field (cs ++ rest) = some (n, rest) := by
  obtain ⟨hblank, hdigits⟩ := h
  rename_i blanks ds
  have hstop : ds.length = 2 ∨ ∀ c ∈ rest.head?, c.isDigit = false := by
    rcases happart with hrest | ⟨front, c, d, hends, hc, -⟩
    · exact Or.inr hrest
    · refine Or.inl ((Nat.le_antisymm hdigits.le_most (Decidable.byContradiction fun hshort => ?_)))
      -- Before a single digit stands white space or nothing.
      obtain ⟨x, rfl⟩ := List.length_eq_one_iff.mp (by have := hdigits.least_le; omega : ds.length = 1)
      have hc' : c ∈ blanks := by
        rw [show front ++ [c, d] = (front ++ [c]) ++ [d] by simp] at hends
        rw [(List.append_inj' hends rfl).1]
        simp
      have := Text.isBlank_of_isDigit hc
      rw [hblank c hc'] at this
      cases this
  rw [field, List.append_assoc, dropWhile_blanks hblank (hdigits.isBlank_head? rest), number_append hdigits hstop]

theorem exists_of_field (h : field cs = some (n, rest)) : ∃ fs, cs = fs ++ rest ∧ Field fs n ∧ Apart fs rest := by
  obtain ⟨blanks, hcs, hblank⟩ := exists_blanks cs
  obtain ⟨ds, hds, hdigits, hstop⟩ := exists_of_number h
  refine ⟨blanks ++ ds, by rw [hcs, hds, List.append_assoc], ⟨hblank, hdigits⟩, ?_⟩
  rcases hstop with htwo | hrest
  · obtain ⟨c, d, rfl⟩ := List.length_eq_two.mp htwo
    exact Or.inr ⟨blanks, c, d, rfl, hdigits.digit c (by simp), hdigits.digit d (by simp)⟩
  · exact Or.inl hrest

/-! ### Years -/

theorem longNumber_append (h : Digits 1 cs.length cs n) (hstop : ∀ c ∈ rest.head?, c.isDigit = false) :
    longNumber (cs ++ rest) = some (n, rest) :=
  number_append ⟨h.digit, h.least_le, by simp, h.value⟩ (Or.inr hstop)

theorem exists_of_longNumber (h : longNumber cs = some (n, rest)) :
    ∃ ds, cs = ds ++ rest ∧ Digits 1 ds.length ds n := by
  obtain ⟨ds, hcs, hdigits, -⟩ := exists_of_number h
  exact ⟨ds, hcs, hdigits.digit, hdigits.least_le, Nat.le_refl _, hdigits.value⟩

theorem yearField_append {year : Int} (h : Year cs year) (hstop : ∀ c ∈ rest.head?, c.isDigit = false) :
    yearField (cs ++ rest) = some (year, rest) := by
  obtain ⟨hblank, hdigits⟩ | ⟨hblank, hdigits⟩ | ⟨hblank, hdigits⟩ := h <;> rename_i blanks ds n
  · have hread := number_append hdigits (Or.inr hstop)
    have hdigit : ∀ c ∈ (ds ++ rest).head?, c.isDigit = true := by
      cases ds with
      | nil => exact absurd rfl hdigits.ne_nil
      | cons c ds =>
        rintro _ ⟨⟩
        exact hdigits.digit c List.mem_cons_self
    rw [yearField, List.append_assoc, dropWhile_blanks hblank (hdigits.isBlank_head? rest)]
    split
    · rename_i heq
      exact absurd (hdigit '-' (by simp [heq])) (by decide)
    · rename_i heq
      exact absurd (hdigit '+' (by simp [heq])) (by decide)
    · simp [hread]
  · have hsign : ∀ c ∈ ('+' :: ds ++ rest).head?, Text.isBlank c = false := by
      rintro _ ⟨⟩
      decide
    rw [yearField, List.append_assoc, dropWhile_blanks hblank hsign]
    simp [longNumber_append hdigits hstop]
  · have hsign : ∀ c ∈ ('-' :: ds ++ rest).head?, Text.isBlank c = false := by
      rintro _ ⟨⟩
      decide
    rw [yearField, List.append_assoc, dropWhile_blanks hblank hsign]
    simp [longNumber_append hdigits hstop]

/-- The white space before a year may be left out. -/
theorem Year.exists_blanks {year : Int} (h : Year cs year) : ∃ blanks ys, cs = blanks ++ ys ∧
    (∀ c ∈ blanks, Text.isBlank c = true) ∧ Year ys year ∧
      ∀ rest, ∀ c ∈ (ys ++ rest).head?, Text.isBlank c = false := by
  have hnil : ∀ c ∈ ([] : List Char), Text.isBlank c = true := by simp
  cases h with
  | plain hblank hdigits => exact ⟨_, _, rfl, hblank, .plain hnil hdigits, hdigits.isBlank_head?⟩
  | plus hblank hdigits => exact ⟨_, _, rfl, hblank, .plus hnil hdigits, by rintro rest _ ⟨⟩; decide⟩
  | minus hblank hdigits => exact ⟨_, _, rfl, hblank, .minus hnil hdigits, by rintro rest _ ⟨⟩; decide⟩

theorem exists_of_yearField {year : Int} (h : yearField cs = some (year, rest)) :
    ∃ ys, cs = ys ++ rest ∧ Year ys year := by
  obtain ⟨blanks, hcs, hblank⟩ := exists_blanks cs
  unfold yearField at h
  split at h <;> obtain ⟨⟨n, rest'⟩, hread, heq⟩ := Option.map_eq_some_iff.mp h <;> cases heq
  · rename_i hsign
    obtain ⟨ds, rfl, hdigits⟩ := exists_of_longNumber hread
    exact ⟨blanks ++ '-' :: ds, by rw [hcs, hsign]; simp, .minus hblank hdigits⟩
  · rename_i hsign
    obtain ⟨ds, rfl, hdigits⟩ := exists_of_longNumber hread
    exact ⟨blanks ++ '+' :: ds, by rw [hcs, hsign]; simp, .plus hblank hdigits⟩
  · obtain ⟨ds, hds, hdigits, -⟩ := exists_of_number hread
    exact ⟨blanks ++ ds, by rw [hcs, hds, List.append_assoc], .plain hblank hdigits⟩

/-! ### Dates and times -/

/-- A mark that is no digit keeps the fields on its sides apart. -/
theorem Apart.field {front fs : List Char} {mark : Char} (h : Apart (front ++ mark :: fs) rest) (hfield : Field fs n)
    (hmark : mark.isDigit = false) : Apart fs rest := by
  rcases h with h | ⟨before, c, d, hends, hc, hd⟩
  · exact Or.inl h
  · obtain ⟨hblank, hdigits⟩ := hfield
    rename_i blanks ds
    have hsome := List.length_pos_iff.mpr hdigits.ne_nil
    rcases List.append_eq_append_iff.mp hends with ⟨as, -, has⟩ | ⟨as, -, has⟩
    · cases as with
      | nil =>
        obtain ⟨rfl, -⟩ := List.cons.inj has
        rw [hmark] at hc
        cases hc
      | cons a as => exact Or.inr ⟨as, c, d, (List.cons.inj has).2, hc, hd⟩
    · cases as with
      | nil =>
        obtain ⟨rfl, -⟩ := List.cons.inj has
        rw [hmark] at hc
        cases hc
      | cons a as =>
        have hlength := congrArg List.length has
        simp only [List.length_cons, List.length_append, List.length_nil] at hlength
        omega

theorem apart_cons {mark : Char} (cs rest : List Char) (hmark : mark.isDigit = false) : Apart cs (mark :: rest) := by
  refine Or.inl ?_
  rintro _ ⟨⟩
  exact hmark

theorem apart_append {mark : Char} (ts ss : List Char) (hmark : mark.isDigit = false) :
    Apart cs (ts ++ mark :: ss) ↔ Apart cs ts := by
  cases ts <;> simp [Apart, hmark]

theorem dateFields_append {date : Date} (h : Layout.free.Day cs date) (happart : Apart cs rest) :
    dateFields (cs ++ rest) = some (date, rest) := by
  obtain ⟨hyear, hmonth, hday⟩ := h
  rename_i ys ms ds year month day
  have hdash : ∀ tail, ∀ c ∈ ('-' :: tail : List Char).head?, c.isDigit = false := by
    rintro tail _ ⟨⟩
    rfl
  rw [← List.cons_append, ← List.append_assoc] at happart
  have hlast : Apart ds rest := happart.field hday rfl
  have hyears := yearField_append hyear (hdash (ms ++ '-' :: (ds ++ rest)))
  have hmonths := field_append hmonth (apart_cons ms (ds ++ rest) (by rfl : '-'.isDigit = false))
  have hdays := field_append hday hlast
  simp [dateFields, hyears, char_cons, hmonths, hdays]

theorem exists_of_dateFields {date : Date} (h : dateFields cs = some (date, rest)) :
    ∃ ds, cs = ds ++ rest ∧ Layout.free.Day ds date ∧ Apart ds rest := by
  simp only [dateFields, Option.bind_eq_bind, Option.bind_eq_some_iff] at h
  obtain ⟨⟨year, _⟩, hyear, _, hdash, ⟨month, _⟩, hmonth, _, hdash', ⟨day, _⟩, hday, heq⟩ := h
  cases heq
  obtain ⟨ys, rfl, hys⟩ := exists_of_yearField hyear
  obtain rfl := char_eq_some_iff.mp hdash
  obtain ⟨ms, rfl, hms, -⟩ := exists_of_field hmonth
  obtain rfl := char_eq_some_iff.mp hdash'
  obtain ⟨ds, rfl, hds, happart⟩ := exists_of_field hday
  refine ⟨ys ++ '-' :: (ms ++ '-' :: ds), by simp, ⟨hys, hms, hds⟩, ?_⟩
  have hlong := happart.append_left (ys ++ '-' :: (ms ++ ['-']))
  simpa using hlong

theorem minuteFields_append {hour minute : Nat} (h : Layout.free.Minute cs (hour, minute))
    (hstop : ∀ c ∈ rest.head?, c.isDigit = false) : minuteFields (cs ++ rest) = some (hour, minute, rest) := by
  obtain ⟨hhour, hminute⟩ := h
  rename_i hs ms
  have hhours := field_append hhour (apart_cons hs (ms ++ rest) (by rfl : ':'.isDigit = false))
  have hminutes := field_append hminute (Or.inl hstop)
  simp [minuteFields, hhours, char_cons, hminutes]

theorem exists_of_minuteFields {hour minute : Nat} (h : minuteFields cs = some (hour, minute, rest)) :
    ∃ ts, cs = ts ++ rest ∧ Layout.free.Minute ts (hour, minute) := by
  simp only [minuteFields, Option.bind_eq_bind, Option.bind_eq_some_iff] at h
  obtain ⟨⟨_, _⟩, hhour, _, hcolon, ⟨_, _⟩, hminute, heq⟩ := h
  cases heq
  obtain ⟨hs, rfl, hhs, -⟩ := exists_of_field hhour
  obtain rfl := char_eq_some_iff.mp hcolon
  obtain ⟨ms, rfl, hms, -⟩ := exists_of_field hminute
  exact ⟨hs ++ ':' :: ms, by simp, hhs, hms⟩

/-! ### Fractions -/

theorem fraction_append {ds : List Char} (hdigit : ∀ c ∈ ds, c.isDigit = true) (hsome : ds ≠ [])
    (hstop : ∀ c ∈ rest.head?, c.isDigit = false) : fraction (ds ++ rest) = some (nanosOf ds, rest) := by
  have hlength : (ds.take 9).length = min 9 ds.length := List.length_take
  have hpos := List.length_pos_iff.mpr hsome
  have hshort : (ds.take 9).length = 9 ∨ ∀ c ∈ (ds.drop 9 ++ rest).head?, c.isDigit = false := by
    rcases Nat.lt_or_ge ds.length 9 with hlt | hge
    · rw [List.drop_eq_nil_of_le (Nat.le_of_lt hlt)]
      exact Or.inr hstop
    · exact Or.inl (by omega)
  have hscan := scanDigits_append 9 0 (fun c hc => hdigit c (List.mem_of_mem_take hc)) (by omega) hshort
  have hrest : (ds.drop 9 ++ rest).dropWhile Char.isDigit = rest := by
    rw [List.dropWhile_append_of_pos fun c hc => hdigit c (List.mem_of_mem_drop hc)]
    cases rest with
    | nil => rfl
    | cons c rest => simp [hstop c rfl]
  rw [← List.append_assoc, List.take_append_drop] at hscan
  rw [fraction, hscan]
  dsimp only
  rw [if_neg (by omega), hrest, nanosOf]

theorem exists_of_fraction {nanos : Nat} (h : fraction cs = some (nanos, rest)) :
    ∃ ds, cs = ds ++ rest ∧ (∀ c ∈ ds, c.isDigit = true) ∧ ds ≠ [] ∧ nanosOf ds = nanos := by
  obtain ⟨ds, hcs, hdigit, hlength, hvalue, hstop⟩ := exists_of_scanDigits 9 0 cs
  unfold fraction at h
  dsimp only at h
  split at h
  · cases h
  · rename_i hread
    generalize (scanDigits 9 0 cs).2.2 = more at *
    cases h
    have hmore : ∀ c ∈ more.takeWhile Char.isDigit, c.isDigit = true := List.all_eq_true.mp List.all_takeWhile
    have hne : ds ≠ [] := by
      rintro rfl
      exact hread (by simpa using hlength)
    have htake : (ds ++ more.takeWhile Char.isDigit).take 9 = ds := by
      rcases hstop with hfull | hnone
      · rw [List.take_append_of_le_length (by omega), List.take_of_length_le (by omega)]
      · have hnil : more.takeWhile Char.isDigit = [] := by
          cases more with
          | nil => rfl
          | cons c more => simp [hnone c rfl]
        rw [hnil, List.append_nil, List.take_of_length_le (by omega)]
    refine ⟨ds ++ more.takeWhile Char.isDigit, ?_, ?_, by simp [hne], ?_⟩
    · rw [List.append_assoc, List.takeWhile_append_dropWhile, ← hcs]
    · exact List.forall_mem_append.mpr ⟨hdigit, hmore⟩
    · have hunread : 9 - ds.length = (scanDigits 9 0 cs).1 := by omega
      rw [nanosOf, htake, hvalue, hunread]

theorem optionalFraction_append {digits : List Char} (h : Fraction cs digits)
    (hstop : ∀ c ∈ rest.head?, c.isDigit = false ∧ c ≠ '.') :
    optionalFraction (cs ++ rest) = some (nanosOf digits, rest) := by
  cases h with
  | none =>
    rw [List.nil_append]
    unfold optionalFraction
    split
    · exact absurd rfl (hstop '.' rfl).2
    · rfl
  | point hdigit hsome => exact fraction_append hdigit hsome fun c hc => (hstop c hc).1

theorem exists_of_optionalFraction {nanos : Nat} (h : optionalFraction cs = some (nanos, rest)) :
    ∃ fs digits, cs = fs ++ rest ∧ Fraction fs digits ∧ nanosOf digits = nanos := by
  unfold optionalFraction at h
  split at h
  · obtain ⟨ds, rfl, hdigit, hsome, hnanos⟩ := exists_of_fraction h
    exact ⟨'.' :: ds, ds, rfl, .point hdigit hsome, hnanos⟩
  · cases h
    exact ⟨[], [], rfl, .none, rfl⟩

/-! ### Zones -/

theorem offsetSize_eq {size : Int} (h : OffsetSize cs size) : offsetSize cs = some (size, []) := by
  obtain ⟨hhours, hminutes, hhour, hminute⟩ := h
  rename_i hs ms hours minutes
  have hlast := number_of_width hminutes []
  rw [List.append_nil] at hlast
  simp [offsetSize, number_of_width hhours, char_cons, hlast, hhour, hminute]

theorem exists_of_offsetSize {size : Int} (h : offsetSize cs = some (size, rest)) :
    ∃ os, cs = os ++ rest ∧ OffsetSize os size := by
  simp only [offsetSize, Option.bind_eq_bind, Option.bind_eq_some_iff] at h
  obtain ⟨⟨_, _⟩, hhours, _, hcolon, ⟨_, _⟩, hminutes, h⟩ := h
  dsimp only at h
  split at h
  · rename_i hlt
    cases h
    obtain ⟨hs, rfl, hhs, -⟩ := exists_of_number hhours
    obtain rfl := char_eq_some_iff.mp hcolon
    obtain ⟨ms, rfl, hms, -⟩ := exists_of_number hminutes
    exact ⟨hs ++ ':' :: ms, by simp, hhs, hms, hlt.1, hlt.2⟩
  · cases h

theorem zone_eq {offset : Int} (h : Zone cs offset) : zone cs = some (offset, []) := by
  cases h with
  | universal hc => exact if_pos hc
  | ahead hsize => exact offsetSize_eq hsize
  | behind hc hsize => rcases hc with rfl | rfl <;> simp [zone, offsetSize_eq hsize]

theorem exists_of_zone {offset : Int} (h : zone cs = some (offset, rest)) :
    ∃ zs, cs = zs ++ rest ∧ Zone zs offset := by
  cases cs with
  | nil => cases h
  | cons c cs =>
    rw [zone] at h
    split at h
    · rename_i hc
      cases h
      exact ⟨[c], rfl, .universal hc⟩
    · split at h
      · rename_i hc
        obtain ⟨os, rfl, hsize⟩ := exists_of_offsetSize h
        exact ⟨c :: os, rfl, hc ▸ .ahead hsize⟩
      · split at h
        · rename_i hc
          obtain ⟨⟨size, _⟩, hread, heq⟩ := Option.map_eq_some_iff.mp h
          cases heq
          obtain ⟨os, rfl, hsize⟩ := exists_of_offsetSize hread
          exact ⟨c :: os, rfl, .behind hc hsize⟩
        · cases h

/-- A zone begins with no character that the time before it could go on with. -/
theorem Zone.head {offset : Int} (h : Zone cs offset) : ∀ c ∈ cs.head?, c.isDigit = false ∧ c ≠ '.' := by
  intro d hd
  cases h with
  | universal hc =>
    cases hd
    rcases hc with rfl | rfl <;> decide
  | ahead hsize =>
    cases hd
    decide
  | behind hc hsize =>
    cases hd
    rcases hc with rfl | rfl <;> decide

end Instant
end PasskeySession
