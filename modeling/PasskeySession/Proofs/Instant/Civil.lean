import Mathlib.Data.List.DropRight
import Mathlib.Data.Rat.Floor
import PasskeySession.Proofs.Instant.Count
import PasskeySession.Proofs.Instant.Grammar

/-! # Instants of civil times

Which texts are read, and as which instant. A text shows a civil time and how far its clock is ahead of universal
time. A text with a zone is read as the text without it, that much earlier, and the seconds of an instant are the
civil seconds since 1970 rounded down, whatever counts the days. -/

namespace PasskeySession

/-- The seconds since 1970 that a clock of universal time has counted. A leap second counts as the second before. -/
def CivilTime.elapsed (c : CivilTime) (count : Date → Int) : ℚ :=
  count c.date * 86400 + (c.hour * 3600 + c.minute * 60 + min c.second 59 : ℕ) + DecimalAmount.tenths c.fraction

namespace Instant
variable {cs rest : List Char} {c : CivilTime} {offset : Int} {mark : Char} {t : Instant}

/-- What a text shows: a civil time, and how many seconds its clock is ahead of universal time. -/
inductive Shows : List Char → CivilTime → Int → Prop
  | zoned {cs zs : List Char} {c : CivilTime} {offset : Int} {mark : Char} (hmark : mark ∈ ['T', 't', ' '])
      (htime : Layout.fixed.Second [mark] cs c) (hzone : Zone zs offset) : Shows (cs ++ zs) c offset
  | toTheSecond {cs : List Char} {c : CivilTime} (htime : Layout.free.Second ['T'] cs c) : Shows cs c 0
  | toTheMinute {ds ts : List Char} {date : Date} {hour minute : Nat} (hdate : Layout.free.Day ds date)
      (htime : Layout.free.Minute ts (hour, minute)) : Shows (ds ++ 'T' :: ts) ⟨date, hour, minute, 0, []⟩ 0
  | spaced {ds ts ss : List Char} {date : Date} {hour minute second : Nat} (hdate : Layout.free.Day ds date)
      (htime : Layout.free.Minute ts (hour, minute)) (hsecond : Layout.free.field ss second)
      (happart : Apart ds ts) : Shows (ds ++ (ts ++ ':' :: ss)) ⟨date, hour, minute, second, []⟩ 0

/-! ### The front of a text -/

/-- What stands at the front of a text: date, mark and time, field by field as they are taken off. -/
def Front (cs : List Char) (mark : Char) (c : CivilTime) (rest : List Char) : Prop :=
  ∃ ts ss fs, dateFields cs = some (c.date, mark :: ts) ∧ minuteFields ts = some (c.hour, c.minute, ':' :: ss) ∧
    field ss = some (c.second, fs) ∧ optionalFraction fs = some (nanosOf c.fraction, rest)

/-- A text to the second stands at the front of whatever does not go on with its last digits. -/
theorem front_append (h : Layout.free.Second [mark] cs c) (hmark : mark.isDigit = false)
    (hstop : ∀ c ∈ rest.head?, c.isDigit = false ∧ c ≠ '.') : Front (cs ++ rest) mark c rest := by
  obtain ⟨hdate, htime, hsecond, hfraction⟩ := h
  rename_i ds ts ss fs digits date hour minute second
  have hapart : Apart ss (fs ++ rest) := by
    refine Or.inl ?_
    cases hfraction with
    | none => exact fun c hc => (hstop c hc).1
    | point =>
      rintro _ ⟨⟩
      rfl
  have hcolon : ∀ c ∈ (':' :: (ss ++ (fs ++ rest))).head?, c.isDigit = false := by
    rintro _ ⟨⟩
    rfl
  refine ⟨ts ++ ':' :: (ss ++ (fs ++ rest)), ss ++ (fs ++ rest), fs ++ rest, ?_, ?_, ?_, ?_⟩
  · have hdates := dateFields_append hdate (apart_cons ds (ts ++ ':' :: (ss ++ (fs ++ rest))) hmark)
    simpa using hdates
  · exact minuteFields_append htime hcolon
  · exact field_append hsecond hapart
  · exact optionalFraction_append hfraction hstop

/-- A text has one front. -/
theorem Front.unique {mark' : Char} {c' : CivilTime} {rest' : List Char} (h : Front cs mark c rest)
    (h' : Front cs mark' c' rest') : mark = mark' ∧ c.clock = c'.clock ∧ rest = rest' := by
  obtain ⟨ts, ss, fs, hdate, htime, hsecond, hfraction⟩ := h
  obtain ⟨ts', ss', fs', hdate', htime', hsecond', hfraction'⟩ := h'
  rw [hdate] at hdate'
  simp only [Option.some.injEq, Prod.mk.injEq, List.cons.injEq] at hdate'
  obtain ⟨hdate, rfl, rfl⟩ := hdate'
  rw [htime] at htime'
  simp only [Option.some.injEq, Prod.mk.injEq, List.cons.injEq] at htime'
  obtain ⟨hhour, hminute, -, rfl⟩ := htime'
  rw [hsecond] at hsecond'
  simp only [Option.some.injEq, Prod.mk.injEq] at hsecond'
  obtain ⟨hsecond, rfl⟩ := hsecond'
  rw [hfraction] at hfraction'
  simp only [Option.some.injEq, Prod.mk.injEq] at hfraction'
  obtain ⟨hnanos, rfl⟩ := hfraction'
  simp [CivilTime.clock, hdate, hhour, hminute, hsecond, hnanos]

theorem Front.toTheSecond? (h : Front cs 'T' c rest) : toTheSecond? cs = finish c.clock rest := by
  obtain ⟨ts, ss, fs, hdate, htime, hsecond, hfraction⟩ := h
  simp [Instant.toTheSecond?, hdate, char_cons, htime, hsecond, hfraction, CivilTime.clock]

theorem minuteFields_dropWhile (cs : List Char) : minuteFields (cs.dropWhile Text.isBlank) = minuteFields cs := by
  simp only [minuteFields, field, List.dropWhile_idempotent]

theorem minuteFields_blank (cs : List Char) : minuteFields (' ' :: cs) = minuteFields cs := by
  rw [← minuteFields_dropWhile, ← minuteFields_dropWhile cs]
  rfl

theorem minuteFields_letter (cs : List Char) : ∀ c ∈ ['T', 't'], minuteFields (c :: cs) = none := by
  simp [minuteFields, field, Text.isBlank, number, scanDigits]

theorem ne_nil_of_optionalFraction {nanos : Nat} (h : optionalFraction cs = some (nanos, rest)) (hrest : rest ≠ []) :
    cs ≠ [] := by
  rintro rfl
  simp [optionalFraction, Ne.symm hrest] at h

theorem mark_cases (h : mark ∈ ['T', 't', ' ']) : mark = 'T' ∨ mark = 't' ∨ mark = ' ' := by
  simpa using h

theorem isDigit_mark (h : mark ∈ ['T', 't', ' ']) : mark.isDigit = false := by
  rcases mark_cases h with rfl | rfl | rfl <;> rfl

theorem finish_of_ne_nil (w : WallClock) (h : rest ≠ []) : finish w rest = none := by
  cases rest with
  | nil => exact absurd rfl h
  | cons c rest => rfl

/-- None of the ways without a zone reads a text that goes on after the seconds. -/
theorem Front.loose? (h : Front cs mark c rest) (hmark : mark ∈ ['T', 't', ' ']) (hrest : rest ≠ []) :
    loose? cs = none := by
  obtain ⟨ts, ss, fs, hdate, htime, hsecond, hfraction⟩ := h
  have hfs := ne_nil_of_optionalFraction hfraction hrest
  have htheSecond : Instant.toTheSecond? cs = none := by
    by_cases hT : mark = 'T'
    · subst hT
      simp [Instant.toTheSecond?, hdate, char_cons, htime, hsecond, hfraction, finish_of_ne_nil _ hrest]
    · simp [Instant.toTheSecond?, hdate, char, Ne.symm hT]
  have htheMinute : Instant.toTheMinute? cs = none := by
    by_cases hT : mark = 'T'
    · subst hT
      simp [Instant.toTheMinute?, hdate, char_cons, htime, finish_cons]
    · simp [Instant.toTheMinute?, hdate, char, Ne.symm hT]
  have hspaced : Instant.spaced? cs = none := by
    have hletter := minuteFields_letter ts
    rcases mark_cases hmark with rfl | rfl | rfl
    · simp [Instant.spaced?, hdate, minuteFields_dropWhile, hletter]
    · simp [Instant.spaced?, hdate, minuteFields_dropWhile, hletter]
    · simp [Instant.spaced?, hdate, minuteFields_dropWhile, minuteFields_blank, htime, char_cons, hsecond,
        finish_of_ne_nil _ hfs]
  rw [Instant.loose?, htheSecond, htheMinute, hspaced]
  rfl

/-! ### With a zone -/

/-- A field of fixed width is a free one. -/
theorem Digits.field {n : Nat} (h : Digits 2 2 cs n) : Field cs n :=
  @Field.mk [] cs n (by simp) (h.widen (by decide) (Nat.le_refl 2))

theorem Digits.year {n : Nat} (h : Digits 4 4 cs n) : Year cs n :=
  @Year.plain [] cs n (by simp) (h.widen (by decide) (Nat.le_refl 4))

theorem free_of_fixed {between : List Char} (h : Layout.fixed.Second between cs c) :
    Layout.free.Second between cs c := by
  obtain ⟨⟨⟨year, hyear, rfl⟩, hmonth, hday⟩, ⟨hhour, hminute⟩, hsecond, hfraction⟩ := h
  exact ⟨⟨hyear.year, hmonth.field, hday.field⟩, ⟨hhour.field, hminute.field⟩, hsecond.field, hfraction⟩

theorem marks_eq_some_iff : (char 'T' cs).or ((char 't' cs).or (char ' ' cs)) = some rest ↔
    ∃ mark ∈ ['T', 't', ' '], cs = mark :: rest := by
  constructor
  · simp only [Option.or_eq_some_iff, char_eq_some_iff]
    rintro (h | ⟨-, h | ⟨-, h⟩⟩)
    · exact ⟨'T', by simp, h⟩
    · exact ⟨'t', by simp, h⟩
    · exact ⟨' ', by simp, h⟩
  · rintro ⟨mark, hmark, rfl⟩
    rcases mark_cases hmark with rfl | rfl | rfl <;> rfl

theorem exists_of_strict? (h : strict? cs = some t) : ∃ s zs c offset mark, cs = s ++ zs ∧ mark ∈ ['T', 't', ' '] ∧
    Layout.fixed.Second [mark] s c ∧ Zone zs offset := by
  obtain ⟨⟨year, _⟩, hyear, h⟩ := Option.bind_eq_some_iff.mp h
  obtain ⟨_, hdash, h⟩ := Option.bind_eq_some_iff.mp h
  obtain ⟨⟨month, _⟩, hmonth, h⟩ := Option.bind_eq_some_iff.mp h
  obtain ⟨_, hdash', h⟩ := Option.bind_eq_some_iff.mp h
  obtain ⟨⟨day, _⟩, hday, h⟩ := Option.bind_eq_some_iff.mp h
  obtain ⟨_, hmark, h⟩ := Option.bind_eq_some_iff.mp h
  obtain ⟨⟨hour, _⟩, hhour, h⟩ := Option.bind_eq_some_iff.mp h
  obtain ⟨_, hcolon, h⟩ := Option.bind_eq_some_iff.mp h
  obtain ⟨⟨minute, _⟩, hminute, h⟩ := Option.bind_eq_some_iff.mp h
  obtain ⟨_, hcolon', h⟩ := Option.bind_eq_some_iff.mp h
  obtain ⟨⟨second, _⟩, hsecond, h⟩ := Option.bind_eq_some_iff.mp h
  obtain ⟨⟨nanos, _⟩, hnanos, h⟩ := Option.bind_eq_some_iff.mp h
  obtain ⟨⟨offset, rest⟩, hzone, h⟩ := Option.bind_eq_some_iff.mp h
  cases rest with
  | cons c rest => cases h
  | nil =>
    obtain ⟨ys, rfl, hys, -⟩ := exists_of_number hyear
    obtain rfl := char_eq_some_iff.mp hdash
    obtain ⟨ms, rfl, hms, -⟩ := exists_of_number hmonth
    obtain rfl := char_eq_some_iff.mp hdash'
    obtain ⟨ds, rfl, hds, -⟩ := exists_of_number hday
    obtain ⟨mark, hmem, rfl⟩ := marks_eq_some_iff.mp hmark
    obtain ⟨hs, rfl, hhs, -⟩ := exists_of_number hhour
    obtain rfl := char_eq_some_iff.mp hcolon
    obtain ⟨mins, rfl, hmins, -⟩ := exists_of_number hminute
    obtain rfl := char_eq_some_iff.mp hcolon'
    obtain ⟨ss, rfl, hss, -⟩ := exists_of_number hsecond
    obtain ⟨fs, digits, rfl, hfs, -⟩ := exists_of_optionalFraction hnanos
    obtain ⟨zs, rfl, hzs⟩ := exists_of_zone hzone
    refine ⟨_, zs, ⟨⟨year, month, day⟩, hour, minute, second, digits⟩, offset, mark, ?_, hmem,
      .mk (.mk ⟨year, hys, rfl⟩ hms hds) (.mk hhs hmins) hss hfs, hzs⟩
    simp only [List.append_assoc, List.cons_append, List.nil_append, List.append_nil]

theorem bind_of_some {α β : Type} {o : Option α} {a : α} (h : o = some a) (f : α → Option β) : o.bind f = f a := by
  rw [h, Option.bind_some]

theorem strict?_append {zs : List Char} (hmark : mark ∈ ['T', 't', ' ']) (htime : Layout.fixed.Second [mark] cs c)
    (hzone : Zone zs offset) :
    strict? (cs ++ zs) = if c.clock.valid then some (c.clock.toInstant offset) else none := by
  have hmarks : ∀ tail, (char 'T' (mark :: tail)).or ((char 't' (mark :: tail)).or (char ' ' (mark :: tail))) =
      some tail := fun tail => marks_eq_some_iff.mpr ⟨mark, hmark, rfl⟩
  obtain ⟨⟨⟨year, hyear, rfl⟩, hmonth, hday⟩, ⟨hhour, hminute⟩, hsecond, hfraction⟩ := htime
  simp only [List.append_assoc, List.cons_append, List.nil_append]
  refine (bind_of_some (number_of_width hyear _) _).trans ?_
  refine (bind_of_some (char_cons ..) _).trans ?_
  refine (bind_of_some (number_of_width hmonth _) _).trans ?_
  refine (bind_of_some (char_cons ..) _).trans ?_
  refine (bind_of_some (number_of_width hday _) _).trans ?_
  refine (bind_of_some (hmarks _) _).trans ?_
  refine (bind_of_some (number_of_width hhour _) _).trans ?_
  refine (bind_of_some (char_cons ..) _).trans ?_
  refine (bind_of_some (number_of_width hminute _) _).trans ?_
  refine (bind_of_some (char_cons ..) _).trans ?_
  refine (bind_of_some (number_of_width hsecond _) _).trans ?_
  refine (bind_of_some (optionalFraction_append hfraction hzone.head) _).trans ?_
  refine (bind_of_some (zone_eq hzone) _).trans ?_
  rfl

theorem Zone.ne_nil (h : Zone cs offset) : cs ≠ [] := by
  rintro rfl
  cases h

theorem front_of_zone {zs : List Char} (hmark : mark ∈ ['T', 't', ' ']) (htime : Layout.free.Second [mark] cs c)
    (hzone : Zone zs offset) : Front (cs ++ zs) mark c zs :=
  front_append htime (isDigit_mark hmark) hzone.head

/-- A text that is read with a zone goes on after the seconds. -/
theorem front_of_strict? (h : strict? cs = some t) :
    ∃ mark c rest, mark ∈ ['T', 't', ' '] ∧ rest ≠ [] ∧ Front cs mark c rest := by
  obtain ⟨s, zs, c, offset, mark, rfl, hmark, htime, hzone⟩ := exists_of_strict? h
  exact ⟨mark, c, zs, hmark, hzone.ne_nil, front_of_zone hmark (free_of_fixed htime) hzone⟩

/-! ### Without a zone -/

theorem strict?_of_toTheSecond (h : Front cs 'T' c []) : strict? cs = none := by
  refine Option.eq_none_iff_forall_ne_some.mpr fun t ht => ?_
  obtain ⟨mark, c', rest, -, hrest, hfront⟩ := front_of_strict? ht
  exact hrest (hfront.unique h).2.2

theorem strict?_of_toTheMinute {ts : List Char} {date : Date} {hour minute : Nat}
    (hdate : dateFields cs = some (date, 'T' :: ts)) (htime : minuteFields ts = some (hour, minute, [])) :
    strict? cs = none := by
  refine Option.eq_none_iff_forall_ne_some.mpr fun t ht => ?_
  obtain ⟨mark, c', rest, -, -, ts', ss, fs, hdate', htime', -⟩ := front_of_strict? ht
  rw [hdate] at hdate'
  cases hdate'
  rw [htime] at htime'
  cases htime'

theorem strict?_of_spaced {ts ss : List Char} {date : Date} {hour minute second : Nat}
    (hdate : dateFields cs = some (date, ts)) (htime : minuteFields ts = some (hour, minute, ':' :: ss))
    (hsecond : field ss = some (second, [])) : strict? cs = none := by
  refine Option.eq_none_iff_forall_ne_some.mpr fun t ht => ?_
  obtain ⟨mark, c', rest, hmark, hrest, ts', ss', fs, hdate', htime', hsecond', hfraction⟩ := front_of_strict? ht
  rw [hdate] at hdate'
  cases hdate'
  rcases mark_cases hmark with rfl | rfl | rfl
  · simp [minuteFields_letter ts'] at htime
  · simp [minuteFields_letter ts'] at htime
  · rw [minuteFields_blank, htime'] at htime
    cases htime
    rw [hsecond] at hsecond'
    cases hsecond'
    exact ne_nil_of_optionalFraction hfraction hrest rfl

theorem finish_nil (w : WallClock) : finish w [] = if w.valid then some (w.toInstant 0) else none := by
  simp [finish]

theorem ofChars?_toTheSecond (h : Layout.free.Second ['T'] cs c) :
    ofChars? cs = if c.clock.valid then some (c.clock.toInstant 0) else none := by
  have hfront : Front (cs ++ []) 'T' c [] := front_append h rfl (by simp)
  rw [List.append_nil] at hfront
  have hstrict := strict?_of_toTheSecond hfront
  have hsecond := hfront.toTheSecond?
  obtain ⟨ts, ss, fs, hdate, htime, -⟩ := hfront
  have hminute : toTheMinute? cs = none := by
    simp [toTheMinute?, hdate, char_cons, htime, finish_cons]
  have hspaced : spaced? cs = none := by
    simp [spaced?, hdate, minuteFields_dropWhile, minuteFields_letter ts]
  rw [ofChars?, hstrict, Option.none_or, loose?, hsecond, hminute, hspaced, finish_nil]
  simp

theorem ofChars?_toTheMinute {ds ts : List Char} {date : Date} {hour minute : Nat} (hdate : Layout.free.Day ds date)
    (htime : Layout.free.Minute ts (hour, minute)) :
    ofChars? (ds ++ 'T' :: ts) = finish ⟨date, hour, minute, 0, 0⟩ [] := by
  have hdates := dateFields_append hdate (apart_cons ds ts (by rfl : 'T'.isDigit = false))
  have htimes : minuteFields (ts ++ []) = some (hour, minute, []) := minuteFields_append htime (by simp)
  rw [List.append_nil] at htimes
  have hsecond : toTheSecond? (ds ++ 'T' :: ts) = none := by
    simp [toTheSecond?, hdates, htimes, char]
  have hspaced : spaced? (ds ++ 'T' :: ts) = none := by
    simp [spaced?, hdates, minuteFields_dropWhile, minuteFields_letter ts]
  have hminute : toTheMinute? (ds ++ 'T' :: ts) = finish ⟨date, hour, minute, 0, 0⟩ [] := by
    simp [toTheMinute?, hdates, char_cons, htimes]
  rw [ofChars?, strict?_of_toTheMinute hdates htimes, Option.none_or, loose?, hsecond, hminute, hspaced]
  simp

theorem ofChars?_spaced {ds ts ss : List Char} {date : Date} {hour minute second : Nat}
    (hdate : Layout.free.Day ds date) (htime : Layout.free.Minute ts (hour, minute))
    (hsecond : Layout.free.field ss second) (happart : Apart ds ts) :
    ofChars? (ds ++ (ts ++ ':' :: ss)) = finish ⟨date, hour, minute, second, 0⟩ [] := by
  have hdates := dateFields_append hdate ((apart_append ts ss (by rfl : ':'.isDigit = false)).mpr happart)
  have htimes : minuteFields (ts ++ ':' :: ss) = some (hour, minute, ':' :: ss) := by
    refine minuteFields_append htime ?_
    rintro _ ⟨⟩
    rfl
  have hseconds : field (ss ++ []) = some (second, []) := field_append hsecond (Or.inl (by simp))
  rw [List.append_nil] at hseconds
  have hletter : char 'T' (ts ++ ':' :: ss) = none := by
    refine Option.eq_none_iff_forall_ne_some.mpr fun tail htail => ?_
    rw [char_eq_some_iff.mp htail, minuteFields_letter tail 'T' (by simp)] at htimes
    cases htimes
  rw [ofChars?, strict?_of_spaced hdates htimes hseconds, Option.none_or, loose?]
  simp [toTheSecond?, toTheMinute?, spaced?, hdates, hletter, minuteFields_dropWhile, htimes, char_cons, hseconds]

/-- What a text shows is what it is read as, if there is such a time. -/
theorem ofChars?_of_shows (h : Shows cs c offset) :
    ofChars? cs = if c.clock.valid then some (c.clock.toInstant offset) else none := by
  cases h with
  | zoned hmark htime hzone =>
    rw [ofChars?, (front_of_zone hmark (free_of_fixed htime) hzone).loose? hmark hzone.ne_nil, Option.or_none,
      strict?_append hmark htime hzone]
  | toTheSecond htime => exact ofChars?_toTheSecond htime
  | toTheMinute hdate htime =>
    rw [ofChars?_toTheMinute hdate htime, finish_nil]
    simp [CivilTime.clock, nanosOf]
  | spaced hdate htime hsecond happart =>
    rw [ofChars?_spaced hdate htime hsecond happart, finish_nil]
    simp [CivilTime.clock, nanosOf]

theorem exists_of_toTheSecond? (h : toTheSecond? cs = some t) : ∃ c, Layout.free.Second ['T'] cs c := by
  simp only [toTheSecond?, Option.bind_eq_bind, Option.bind_eq_some_iff] at h
  obtain ⟨⟨date, _⟩, hdate, _, hT, ⟨hour, minute, _⟩, htime, _, hcolon, ⟨second, _⟩, hsecond, ⟨nanos, rest⟩, hnanos,
    h⟩ := h
  cases rest with
  | cons c rest => cases h
  | nil =>
    obtain ⟨ds, rfl, hds, -⟩ := exists_of_dateFields hdate
    obtain rfl := char_eq_some_iff.mp hT
    obtain ⟨ts, rfl, hts⟩ := exists_of_minuteFields htime
    obtain rfl := char_eq_some_iff.mp hcolon
    obtain ⟨ss, rfl, hss, -⟩ := exists_of_field hsecond
    obtain ⟨fs, digits, rfl, hfs, -⟩ := exists_of_optionalFraction hnanos
    rw [List.append_nil]
    exact ⟨_, .mk hds hts hss hfs⟩

theorem exists_of_toTheMinute? (h : toTheMinute? cs = some t) : ∃ c, Shows cs c 0 := by
  simp only [toTheMinute?, Option.bind_eq_bind, Option.bind_eq_some_iff] at h
  obtain ⟨⟨date, _⟩, hdate, _, hT, ⟨hour, minute, rest⟩, htime, h⟩ := h
  cases rest with
  | cons c rest => cases h
  | nil =>
    obtain ⟨ds, rfl, hds, -⟩ := exists_of_dateFields hdate
    obtain rfl := char_eq_some_iff.mp hT
    obtain ⟨ts, rfl, hts⟩ := exists_of_minuteFields htime
    rw [List.append_nil]
    exact ⟨_, .toTheMinute hds hts⟩

theorem exists_of_spaced? (h : spaced? cs = some t) : ∃ c, Shows cs c 0 := by
  simp only [spaced?, Option.bind_eq_bind, Option.bind_eq_some_iff] at h
  obtain ⟨⟨date, _⟩, hdate, ⟨hour, minute, _⟩, htime, _, hcolon, ⟨second, rest⟩, hsecond, h⟩ := h
  cases rest with
  | cons c rest => cases h
  | nil =>
    rw [minuteFields_dropWhile] at htime
    obtain ⟨ds, rfl, hds, happart⟩ := exists_of_dateFields hdate
    obtain ⟨ts, hts, htimes⟩ := exists_of_minuteFields htime
    obtain rfl := char_eq_some_iff.mp hcolon
    obtain ⟨ss, rfl, hss, -⟩ := exists_of_field hsecond
    dsimp only at hts
    rw [List.append_nil] at hts
    subst hts
    exact ⟨_, .spaced hds htimes hss ((apart_append ts _ rfl).mp happart)⟩

/-- Whatever is read shows a civil time. -/
theorem shows_of_ofChars? (h : ofChars? cs = some t) : ∃ c offset, Shows cs c offset := by
  rcases Option.or_eq_some_iff.mp h with hstrict | ⟨-, hloose⟩
  · obtain ⟨s, zs, c, offset, mark, rfl, hmark, htime, hzone⟩ := exists_of_strict? hstrict
    exact ⟨c, offset, .zoned hmark htime hzone⟩
  · rcases Option.or_eq_some_iff.mp hloose with hsecond | ⟨-, hshort⟩
    · obtain ⟨c, htime⟩ := exists_of_toTheSecond? hsecond
      exact ⟨c, 0, .toTheSecond htime⟩
    · rcases Option.or_eq_some_iff.mp hshort with hminute | ⟨-, hspaced⟩
      · obtain ⟨c, hshows⟩ := exists_of_toTheMinute? hminute
        exact ⟨c, 0, hshows⟩
      · obtain ⟨c, hshows⟩ := exists_of_spaced? hspaced
        exact ⟨c, 0, hshows⟩

/-- A text is read exactly if it shows a time that there is, and as the instant of that time. -/
theorem ofChars?_eq_some_iff :
    ofChars? cs = some t ↔ ∃ c offset, Shows cs c offset ∧ c.clock.valid = true ∧ t = c.clock.toInstant offset := by
  constructor
  · intro h
    obtain ⟨c, offset, hshows⟩ := shows_of_ofChars? h
    rw [ofChars?_of_shows hshows] at h
    split at h
    · rename_i hvalid
      cases h
      exact ⟨c, offset, hshows, hvalid, rfl⟩
    · cases h
  · rintro ⟨c, offset, hshows, hvalid, rfl⟩
    rw [ofChars?_of_shows hshows, if_pos hvalid]

/-! ### White space around a text -/

/-- The last character is not white space. -/
def Closed (cs : List Char) : Prop := ∃ front c, cs = front ++ [c] ∧ Text.isBlank c = false

theorem Closed.append_left (front : List Char) (h : Closed cs) : Closed (front ++ cs) := by
  obtain ⟨before, c, rfl, hc⟩ := h
  exact ⟨front ++ before, c, (List.append_assoc ..).symm, hc⟩

theorem closed_of_isDigit (hdigit : ∀ c ∈ cs, c.isDigit = true) (hsome : cs ≠ []) : Closed cs :=
  ⟨cs.dropLast, cs.getLast hsome, (List.dropLast_append_getLast hsome).symm,
    Text.isBlank_of_isDigit (hdigit _ (List.getLast_mem hsome))⟩

theorem OffsetSize.closed {size : Int} (h : OffsetSize cs size) : Closed cs := by
  cases h with
  | @mk hs ms _ _ hhours hminutes =>
    have hlast := (closed_of_isDigit hminutes.digit hminutes.ne_nil).append_left (hs ++ [':'])
    simpa using hlast

theorem Zone.closed (h : Zone cs offset) : Closed cs := by
  cases h with
  | universal hc => exact ⟨[], _, rfl, by rcases hc with rfl | rfl <;> decide⟩
  | ahead hsize => exact hsize.closed.append_left ['+']
  | behind hc hsize => exact hsize.closed.append_left [_]

theorem closed_of_second {between : List Char} (h : Layout.free.Second between cs c) : Closed cs := by
  obtain ⟨-, -, ⟨-, hdigits⟩, hfraction⟩ := h
  rename_i ds ts fs digits _ _ _ _ blanks ss
  have hlast : Closed (ss ++ fs) := by
    cases hfraction with
    | none => simpa using closed_of_isDigit hdigits.digit hdigits.ne_nil
    | point hdigit hsome => simpa using (closed_of_isDigit hdigit hsome).append_left (ss ++ ['.'])
  simpa using hlast.append_left (ds ++ between ++ ts ++ ':' :: blanks)

theorem trim_append {blanks : List Char} (hblank : ∀ c ∈ blanks, Text.isBlank c = true)
    (hfirst : ∀ c ∈ cs.head?, Text.isBlank c = false) (hlast : Closed cs) : Text.trim (blanks ++ cs) = cs := by
  obtain ⟨front, c, rfl, hc⟩ := hlast
  rw [Text.trim, dropWhile_blanks hblank hfirst, Text.dropEndWhile_append_of_neg hc]

/-- The white space at the front of a text to the second is that of its year. -/
theorem exists_blanks_of_second {between : List Char} (h : Layout.free.Second between cs c) : ∃ blanks s,
    cs = blanks ++ s ∧ (∀ c ∈ blanks, Text.isBlank c = true) ∧ Layout.free.Second between s c ∧
      ∀ rest, ∀ c ∈ (s ++ rest).head?, Text.isBlank c = false := by
  obtain ⟨⟨hyear, hmonth, hday⟩, htime, hsecond, hfraction⟩ := h
  obtain ⟨blanks, ys, rfl, hblank, hyear, hfirst⟩ := hyear.exists_blanks
  refine ⟨blanks, _, ?_, hblank, .mk (.mk hyear hmonth hday) htime hsecond hfraction, fun rest d hd => ?_⟩
  · simp
  · rw [List.append_assoc, List.append_assoc] at hd
    exact hfirst _ d hd

/-! ### Seconds since 1970 -/

end Instant

theorem DecimalAmount.tenths_nonneg (cs : List Char) : 0 ≤ DecimalAmount.tenths cs := by
  induction cs with
  | nil => exact le_refl 0
  | cons c cs ih =>
    rw [DecimalAmount.tenths]
    positivity

theorem DecimalAmount.tenths_lt_one {cs : List Char} (h : ∀ c ∈ cs, c.isDigit = true) :
    DecimalAmount.tenths cs < 1 := by
  induction cs with
  | nil => exact zero_lt_one
  | cons c cs ih =>
    obtain ⟨hc, hcs⟩ := List.forall_mem_cons.mp h
    have hle : c.toNat - 48 ≤ 9 := by
      have := Text.toNat_of_isDigit hc
      omega
    have hdigit : ((c.toNat - 48 : ℕ) : ℚ) ≤ 9 := by exact_mod_cast hle
    have hrest := ih hcs
    rw [DecimalAmount.tenths]
    linarith

namespace Instant

/-- The fraction that a text shows is one of digits. -/
theorem Shows.isDigit_fraction {cs : List Char} {c : CivilTime} {offset : Int} (h : Shows cs c offset) :
    ∀ d ∈ c.fraction, d.isDigit = true := by
  have hdigits : ∀ {fs digits}, Fraction fs digits → ∀ d ∈ digits, d.isDigit = true := by
    intro fs digits hfraction
    cases hfraction with
    | none => simp
    | point hdigit => exact hdigit
  cases h with
  | zoned hmark htime =>
    obtain ⟨-, -, -, hfraction⟩ := htime
    exact hdigits hfraction
  | toTheSecond htime =>
    obtain ⟨-, -, -, hfraction⟩ := htime
    exact hdigits hfraction
  | toTheMinute => simp
  | spaced => simp

end Instant

namespace CivilTime

/-- A time that there is: a real date of the years that are counted, and a sixtieth second in any minute. -/
structure Real (c : CivilTime) : Prop where
  year : WallClock.yearInRange c.date.year = true
  date : c.date.valid = true
  hour : c.hour < 24
  minute : c.minute < 60
  second : c.second ≤ 60

theorem real_iff {c : CivilTime} : c.clock.valid = true ↔ c.Real := by
  simp only [WallClock.valid, Bool.and_eq_true, decide_eq_true_eq]
  constructor
  · rintro ⟨⟨⟨⟨hyear, hdate⟩, hhour⟩, hminute⟩, hsecond⟩
    exact ⟨hyear, hdate, hhour, hminute, hsecond⟩
  · rintro ⟨hyear, hdate, hhour, hminute, hsecond⟩
    exact ⟨⟨⟨⟨hyear, hdate⟩, hhour⟩, hminute⟩, hsecond⟩

/-- The seconds of the instant are the seconds of the time, rounded down, by whatever count of the days. -/
theorem seconds_eq_floor {c : CivilTime} (h : c.Real) (hfraction : ∀ d ∈ c.fraction, d.isDigit = true)
    {count : Date → Int} (hcount : Date.IsCount count) (offset : Int) :
    (c.clock.toInstant offset).seconds = ⌊c.elapsed count - offset⌋ := by
  have hdays : count c.date = c.date.toDays := hcount.eq_toDays h.date
  have hnonneg := DecimalAmount.tenths_nonneg c.fraction
  have hlt := DecimalAmount.tenths_lt_one hfraction
  symm
  rw [Int.floor_eq_iff, elapsed, hdays]
  simp only [WallClock.toInstant, clock]
  push_cast
  constructor <;> linarith

end CivilTime

namespace Instant

theorem parse_eq_ok_iff {text : String} : parse text = .ok t ↔ ofChars? (Text.trim text.toList) = some t := by
  unfold parse
  cases ofChars? (Text.trim text.toList) <;> simp

/-- A text with a zone is read as the text without it, earlier by the zone. -/
theorem parse_zone {s z : String} {c : CivilTime} {offset : Int} {t : Instant}
    (htime : Layout.free.Second ['T'] s.toList c) (hzone : Zone z.toList offset) (h : parse (s ++ z) = .ok t) :
    ∃ u, parse s = .ok u ∧ t = ⟨u.seconds - offset, u.nanos⟩ := by
  obtain ⟨blanks, cs, hs, hblank, hfree, hfirst⟩ := exists_blanks_of_second htime
  have hplain : Text.trim s.toList = cs := by
    rw [hs]
    exact trim_append hblank (by simpa using hfirst []) (closed_of_second hfree)
  have hzoned : Text.trim (s ++ z).toList = cs ++ z.toList := by
    rw [String.toList_append, hs, List.append_assoc]
    exact trim_append hblank (hfirst _) (hzone.closed.append_left cs)
  have hread := parse_eq_ok_iff.mp h
  rw [hzoned] at hread
  -- Only the way with a zone reads the text, and it takes the same front off it.
  have hfront := front_of_zone (by simp) hfree hzone
  rw [ofChars?, hfront.loose? (by simp) hzone.ne_nil, Option.or_none] at hread
  obtain ⟨s', zs, c', offset', mark, heq, hmark, hfixed, hzone'⟩ := exists_of_strict? hread
  have hfront' := front_of_zone hmark (free_of_fixed hfixed) hzone'
  rw [← heq] at hfront'
  obtain ⟨-, hclock, rfl⟩ := hfront.unique hfront'
  have hoffset : offset' = offset := by
    have hsame := (zone_eq hzone').symm.trans (zone_eq hzone)
    cases hsame
    rfl
  rw [heq, strict?_append hmark hfixed hzone', hoffset, ← hclock] at hread
  split at hread
  · rename_i hvalid
    cases hread
    refine ⟨c.clock.toInstant 0, ?_, ?_⟩
    · rw [parse_eq_ok_iff, hplain, ofChars?_toTheSecond hfree, if_pos hvalid]
    · simp [WallClock.toInstant]
  · cases hread

/-- An instant that is read is of a time that the text shows, and of no other. -/
theorem parse_shows {text : String} {t : Instant} (h : parse text = .ok t) :
    (∃ c offset, Shows (Text.trim text.toList) c offset) ∧ ∀ c offset, Shows (Text.trim text.toList) c offset →
      c.Real ∧ t = c.clock.toInstant offset := by
  have hread := parse_eq_ok_iff.mp h
  refine ⟨shows_of_ofChars? hread, fun c offset hshows => ?_⟩
  rw [ofChars?_of_shows hshows] at hread
  split at hread
  · rename_i hvalid
    cases hread
    exact ⟨CivilTime.real_iff.mp hvalid, rfl⟩
  · cases hread

/-- Texts with and without a zone agree, and a text without a zone is of universal time: a text to the second that is
read with a zone is read without it too, later by what its clock is ahead. The seconds of any instant that is read
are those of the civil time that its text shows, rounded down. -/
theorem parse_civil :
    (∀ {s z : String} {c : CivilTime} {offset : Int} {t : Instant}, Layout.free.Second ['T'] s.toList c →
      Zone z.toList offset → parse (s ++ z) = .ok t → ∃ u, parse s = .ok u ∧ t = ⟨u.seconds - offset, u.nanos⟩) ∧
    (∀ {text : String} {t : Instant}, parse text = .ok t →
      (∃ c offset, Shows (Text.trim text.toList) c offset) ∧
        ∀ c offset, Shows (Text.trim text.toList) c offset →
          c.Real ∧ ∀ count, Date.IsCount count → t.seconds = ⌊c.elapsed count - offset⌋) := by
  refine ⟨parse_zone, fun h => ?_⟩
  obtain ⟨hsome, hall⟩ := parse_shows h
  refine ⟨hsome, fun c offset hshows => ?_⟩
  obtain ⟨hreal, rfl⟩ := hall c offset hshows
  exact ⟨hreal, fun count hcount => CivilTime.seconds_eq_floor hreal hshows.isDigit_fraction hcount offset⟩

/-- The leap second before 1970, on a clock five hours and a half ahead. -/
theorem parse_civil_leap :
    (∃ u, parse "1969-12-31T23:59:60.25" = .ok u ∧ (⟨-19801, 1250000000⟩ : Instant) = ⟨u.seconds - 19800, u.nanos⟩) ∧
      (-19801 : Int) =
        ⌊(⟨⟨1969, 12, 31⟩, 23, 59, 60, ['2', '5']⟩ : CivilTime).elapsed Date.toDays - (19800 : Int)⌋ := by
  have htwo : ∀ c d n, c.isDigit = true → d.isDigit = true → Nat.ofDigitChars 10 [c, d] 0 = n → Digits 2 2 [c, d] n :=
    fun c d n hc hd hn => ⟨by simp [hc, hd], by simp, by simp, hn⟩
  have hyear : Digits 4 4 ['1', '9', '6', '9'] 1969 := ⟨by simp, by decide, by decide, by decide⟩
  have hdate : Layout.fixed.Day (['1', '9', '6', '9'] ++ '-' :: (['1', '2'] ++ '-' :: ['3', '1'])) ⟨1969, 12, 31⟩ :=
    .mk ⟨1969, hyear, rfl⟩ (htwo '1' '2' 12 rfl rfl rfl) (htwo '3' '1' 31 rfl rfl rfl)
  have hminute : Layout.fixed.Minute (['2', '3'] ++ ':' :: ['5', '9']) (23, 59) :=
    .mk (htwo '2' '3' 23 rfl rfl rfl) (htwo '5' '9' 59 rfl rfl rfl)
  have hfraction : Fraction ['.', '2', '5'] ['2', '5'] := .point (by simp) (by simp)
  have htime : Layout.fixed.Second ['T'] "1969-12-31T23:59:60.25".toList ⟨⟨1969, 12, 31⟩, 23, 59, 60, ['2', '5']⟩ :=
    .mk hdate hminute (htwo '6' '0' 60 rfl rfl rfl) hfraction
  have hzone : Zone "+05:30".toList 19800 :=
    .ahead (.mk (htwo '0' '5' 5 rfl rfl rfl) (htwo '3' '0' 30 rfl rfl rfl) (by decide) (by decide))
  have hread : parse ("1969-12-31T23:59:60.25" ++ "+05:30") = .ok ⟨-19801, 1250000000⟩ := by decide
  have htrim : Text.trim ("1969-12-31T23:59:60.25" ++ "+05:30").toList =
      "1969-12-31T23:59:60.25".toList ++ "+05:30".toList := by decide
  refine ⟨parse_civil.1 (free_of_fixed htime) hzone hread, ?_⟩
  have hshows := Shows.zoned (by decide : 'T' ∈ ['T', 't', ' ']) htime hzone
  exact ((parse_civil.2 hread).2 _ _ (htrim ▸ hshows)).2 Date.toDays Date.isCount_toDays

end Instant
end PasskeySession
