import PasskeySession.Proofs.Instant.Calendar

/-! # Counting days

The days since the first of January 1970 are the one count that is nought on that day and goes up by one from
each day of the calendar to the day after it. Every real date has a day after it and is the date of its own
count, so two such counts agree on all real dates, before 1970 too. -/

namespace PasskeySession.Date

/-- How many days the month of a date has. -/
def monthLength (d : Date) : Nat := (monthLengths d.year).getD (d.month - 1) 0

/-- The day after. -/
def next (d : Date) : Date :=
  if d.day < d.monthLength then ⟨d.year, d.month, d.day + 1⟩
  else if d.month < 12 then ⟨d.year, d.month + 1, 1⟩
  else ⟨d.year + 1, 1, 1⟩

/-- A count of the days of the calendar from the first of January 1970. -/
structure IsCount (count : Date → Int) : Prop where
  epoch : count ⟨1970, 1, 1⟩ = 0
  next : ∀ {d : Date}, d.valid = true → count d.next = count d + 1

/-- What a real date has. -/
structure Real (d : Date) : Prop where
  one_le_month : 1 ≤ d.month
  month_le : d.month ≤ 12
  one_le_day : 1 ≤ d.day
  day_le : d.day ≤ d.monthLength

theorem valid_iff {d : Date} : d.valid = true ↔ d.Real := by
  simp only [valid, Bool.and_eq_true, decide_eq_true_eq]
  constructor
  · rintro ⟨⟨⟨hone, hmonth⟩, hday⟩, hlength⟩
    exact ⟨hone, hmonth, hday, hlength⟩
  · rintro ⟨hone, hmonth, hday, hlength⟩
    exact ⟨⟨⟨hone, hmonth⟩, hday⟩, hlength⟩

/-! ### Months -/

theorem one_le_monthLengths (year : Int) {k : Nat} (h : k < 12) : 1 ≤ (monthLengths year).getD k 0 := by
  have hall : ∀ n ∈ monthLengths year, 1 ≤ n := by
    unfold monthLengths
    cases isLeapYear year <;> decide
  have hk : k < (monthLengths year).length := h
  rw [List.getD_eq_getElem?_getD, List.getElem?_eq_getElem hk]
  exact hall _ (List.getElem_mem hk)

theorem total_take_succ {lengths : List Nat} {k : Nat} (h : k < lengths.length) :
    (lengths.take (k + 1)).foldl (· + ·) 0 = (lengths.take k).foldl (· + ·) 0 + lengths.getD k 0 := by
  rw [List.take_add_one, List.foldl_append, List.getD_eq_getElem?_getD, List.getElem?_eq_getElem h]
  rfl

theorem total_take_le (lengths : List Nat) (k : Nat) :
    (lengths.take k).foldl (· + ·) 0 ≤ lengths.foldl (· + ·) 0 := by
  induction lengths generalizing k with
  | nil => simp
  | cons length lengths ih =>
    cases k with
    | zero => exact Nat.zero_le _
    | succ k =>
      rw [List.take_succ_cons, total_cons, total_cons]
      exact Nat.add_le_add_left (ih k) length

/-- The next month begins when a month has passed. -/
theorem daysBeforeMonth_succ (year : Int) {month : Nat} (hone : 1 ≤ month) (hmonth : month ≤ 12) :
    daysBeforeMonth year (month + 1) = daysBeforeMonth year month + (monthLengths year).getD (month - 1) 0 := by
  have hk : month - 1 < (monthLengths year).length := Nat.lt_of_lt_of_le (Nat.sub_one_lt_of_lt hone) hmonth
  rw [daysBeforeMonth, daysBeforeMonth, ← total_take_succ hk, Nat.add_sub_cancel, Nat.sub_add_cancel hone]

/-- A day of a month is found again among the days of the year. -/
theorem monthOfDay_total (month : Nat) {lengths : List Nat} {k day : Nat} (hk : k < lengths.length)
    (hday : day < lengths.getD k 0) :
    monthOfDay month ((lengths.take k).foldl (· + ·) 0 + day) lengths = (month + k, day + 1) := by
  induction lengths generalizing month k with
  | nil => cases hk
  | cons length lengths ih =>
    cases k with
    | zero =>
      have hlt : 0 + day < length := by rwa [Nat.zero_add]
      rw [List.take_zero, List.foldl_nil, monthOfDay, if_pos hlt, Nat.zero_add]
      rfl
    | succ k =>
      have hrest : length + (lengths.take k).foldl (· + ·) 0 + day - length =
          (lengths.take k).foldl (· + ·) 0 + day := by omega
      rw [List.take_succ_cons, total_cons, monthOfDay, if_neg (by omega), hrest,
        ih (month + 1) (Nat.lt_of_succ_lt_succ hk) hday, Nat.add_right_comm, Nat.add_assoc]

/-! ### Years -/

theorem daysBeforeYear_succ (year : Int) :
    daysBeforeYear (year + 1) = daysBeforeYear year + ((monthLengths year).foldl (· + ·) 0 : Nat) := by
  rw [days_of_year]
  unfold daysBeforeYear isLeapYear
  simp only [Bool.and_eq_true, Bool.or_eq_true, beq_iff_eq, bne_iff_ne]
  split <;> omega

theorem daysBeforeYear_le {year later : Int} (h : year ≤ later) : daysBeforeYear year ≤ daysBeforeYear later := by
  unfold daysBeforeYear
  dsimp only
  omega

/-- A day of a year is a day of no other. -/
theorem year_unique {year year' : Int} {rest rest' : Nat}
    (heq : daysBeforeYear year + rest = daysBeforeYear year' + rest')
    (hrest : rest < (monthLengths year).foldl (· + ·) 0) (hrest' : rest' < (monthLengths year').foldl (· + ·) 0) :
    year = year' := by
  have hnext := daysBeforeYear_succ year
  have hnext' := daysBeforeYear_succ year'
  rcases Int.lt_trichotomy year year' with hlt | hsame | hgt
  · have hle := daysBeforeYear_le (Int.add_one_le_of_lt hlt)
    omega
  · exact hsame
  · have hle := daysBeforeYear_le (Int.add_one_le_of_lt hgt)
    omega

/-! ### The date of a count -/

namespace Real
variable {d : Date}

theorem index_lt (h : d.Real) : d.month - 1 < (monthLengths d.year).length :=
  Nat.lt_of_lt_of_le (Nat.sub_one_lt_of_lt h.one_le_month) h.month_le

theorem day_lt (h : d.Real) : d.day - 1 < (monthLengths d.year).getD (d.month - 1) 0 :=
  Nat.lt_of_lt_of_le (Nat.sub_one_lt_of_lt h.one_le_day) h.day_le

/-- A real date lies within its year. -/
theorem inYear_lt (h : d.Real) :
    daysBeforeMonth d.year d.month + (d.day - 1) < (monthLengths d.year).foldl (· + ·) 0 := by
  have hmonth := total_take_succ h.index_lt
  have hyear := total_take_le (monthLengths d.year) (d.month - 1 + 1)
  have hday := h.day_lt
  unfold daysBeforeMonth
  omega

/-- A real date is the date of its day. -/
theorem ofDays_toDays (h : d.Real) : ofDays d.toDays = d := by
  obtain ⟨year, rest, hdate, hdays, hrest⟩ := ofDays_eq d.toDays
  have hsplit : daysBeforeYear year + rest =
      daysBeforeYear d.year + (daysBeforeMonth d.year d.month + (d.day - 1) : Nat) := by
    rw [hdays, toDays]
    omega
  obtain rfl := year_unique hsplit hrest h.inYear_lt
  obtain rfl : rest = daysBeforeMonth d.year d.month + (d.day - 1) := by omega
  rw [hdate, daysBeforeMonth, monthOfDay_total 1 h.index_lt h.day_lt, Nat.sub_add_cancel h.one_le_day,
    Nat.add_sub_cancel' h.one_le_month]

/-- The day after a real date is a real date. -/
theorem next (h : d.Real) : d.next.Real := by
  have hfirst : ∀ {year : Int} {month : Nat}, 1 ≤ month → month ≤ 12 → (⟨year, month, 1⟩ : Date).Real :=
    fun hone hmonth => ⟨hone, hmonth, Nat.le_refl 1, one_le_monthLengths _ (Nat.sub_one_lt_of_le hone hmonth)⟩
  unfold Date.next
  split
  · rename_i hday
    exact ⟨h.one_le_month, h.month_le, Nat.le_add_left 1 _, hday⟩
  · split
    · rename_i hmonth
      exact hfirst (Nat.le_add_left 1 _) hmonth
    · exact hfirst (Nat.le_refl 1) (by decide)

theorem toDays_next (h : d.Real) : d.next.toDays = d.toDays + 1 := by
  have hone := h.one_le_day
  have hle := h.day_le
  have hmonth := daysBeforeMonth_succ d.year h.one_le_month h.month_le
  unfold Date.next
  split
  · simp only [toDays]
    omega
  · rename_i hlast
    have hday : d.day = (monthLengths d.year).getD (d.month - 1) 0 := Nat.le_antisymm hle (Nat.le_of_not_lt hlast)
    split
    · simp only [toDays]
      omega
    · rename_i hdecember
      obtain hdecember : d.month = 12 := Nat.le_antisymm h.month_le (Nat.le_of_not_lt hdecember)
      have hwhole : daysBeforeMonth d.year (d.month + 1) = (monthLengths d.year).foldl (· + ·) 0 := by
        rw [hdecember]
        rfl
      have hnone : daysBeforeMonth (d.year + 1) 1 = 0 := rfl
      simp only [toDays, daysBeforeYear_succ, hnone, ← hwhole]
      omega

end Real

/-- The day after the date of a day is the date of the next day. -/
theorem next_ofDays (days : Int) : (ofDays days).next = ofDays (days + 1) := by
  have hreal := valid_iff.mp (valid_ofDays days)
  rw [← hreal.next.ofDays_toDays, hreal.toDays_next, toDays_ofDays]

theorem isCount_toDays : IsCount toDays where
  epoch := by decide
  next h := (valid_iff.mp h).toDays_next

namespace IsCount
variable {count : Date → Int}

/-- From the first of January 1970 the count is followed day by day, forward and backward. -/
theorem count_ofDays (h : IsCount count) (days : Int) : count (ofDays days) = days := by
  have hstep : ∀ n, count (ofDays (n + 1)) = count (ofDays n) + 1 := fun n => by
    rw [← next_ofDays, h.next (valid_ofDays n)]
  have hstart : ofDays 0 = ⟨1970, 1, 1⟩ := by decide
  have hahead : ∀ n : Nat, count (ofDays n) = n := fun n => by
    induction n with
    | zero => exact (congrArg count hstart).trans h.epoch
    | succ n ih => exact (hstep n).trans (congrArg (· + 1) ih)
  have hback : ∀ n : Nat, count (ofDays (-n)) = -n := fun n => by
    induction n with
    | zero => exact hahead 0
    | succ n ih =>
      have hnext := hstep (-(n + 1 : Nat))
      rw [show (-(n + 1 : Nat) + 1 : Int) = -n by omega, ih] at hnext
      omega
  obtain ⟨n, rfl | rfl⟩ := Int.eq_nat_or_neg days
  · exact hahead n
  · exact hback n

/-- There is only one count of the days. -/
theorem eq_toDays (h : IsCount count) {d : Date} (hvalid : d.valid = true) : count d = d.toDays := by
  rw [← h.count_ofDays d.toDays, (valid_iff.mp hvalid).ofDays_toDays]

end IsCount
end PasskeySession.Date
