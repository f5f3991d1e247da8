import PasskeySession.Instant.Calendar

/-! # The day of a date

A count of days falls on a real date, and that date has the count. -/

namespace PasskeySession.Date

/-! ### Months -/

theorem total_cons (n : Nat) (ns : List Nat) : (n :: ns).foldl (· + ·) 0 = n + ns.foldl (· + ·) 0 := by
  rw [List.foldl_cons, Nat.zero_add, ← Nat.add_zero n]
  exact List.foldl_assoc

/-- A day of the year falls on a day of the month before which the days that are left have passed. -/
theorem monthOfDay_eq (month : Nat) {rest : Nat} {lengths : List Nat} (h : rest < lengths.foldl (· + ·) 0) :
    ∃ k day, monthOfDay month rest lengths = (month + k, day + 1) ∧ k < lengths.length ∧
      day < lengths.getD k 0 ∧ (lengths.take k).foldl (· + ·) 0 + day = rest := by
  induction lengths generalizing month rest with
  | nil => cases h
  | cons length lengths ih =>
    rw [total_cons] at h
    rw [monthOfDay]
    split
    · rename_i hlt
      exact ⟨0, rest, rfl, Nat.succ_pos _, hlt, Nat.zero_add rest⟩
    · rename_i hge
      obtain ⟨k, day, heq, hk, hday, hrest⟩ := ih (month + 1) (by omega : rest - length < _)
      refine ⟨k + 1, day, ?_, Nat.succ_lt_succ hk, hday, ?_⟩
      · rw [heq, Nat.add_right_comm, Nat.add_assoc]
      · rw [List.take_succ_cons, total_cons]
        omega

theorem days_of_year (year : Int) :
    (monthLengths year).foldl (· + ·) 0 = if isLeapYear year then 366 else 365 := by
  unfold monthLengths
  cases isLeapYear year <;> rfl

/-! ### Years -/

/-- The years before a day, in whole cycles, centuries, olympiads and single years. -/
theorem daysBeforeYear_eq (cycle : Int) {century olympiad single : Nat} (hc : century ≤ 3) (ho : olympiad ≤ 24)
    (hs : single ≤ 3) :
    daysBeforeYear (cycle * 400 + (century * 100 + olympiad * 4 + single : Nat) + 1) =
      cycle * 146097 + (century * 36524 + olympiad * 1461 + single * 365 : Nat) := by
  unfold daysBeforeYear
  dsimp only
  omega

/-- The last year of an olympiad is a leap year, unless it ends a century that does not end a cycle. -/
theorem isLeapYear_last (cycle : Int) {century olympiad : Nat} (ho : olympiad ≤ 24)
    (h : olympiad = 24 → century = 3) :
    isLeapYear (cycle * 400 + (century * 100 + olympiad * 4 + 3 : Nat) + 1) = true := by
  simp only [isLeapYear, Bool.and_eq_true, Bool.or_eq_true, beq_iff_eq, bne_iff_ne]
  omega

/-- A day falls into a year, before which the days that are left have passed. -/
theorem ofDays_eq (days : Int) : ∃ (year : Int) (rest : Nat),
    ofDays days = ⟨year, (monthOfDay 1 rest (monthLengths year)).1, (monthOfDay 1 rest (monthLengths year)).2⟩ ∧
      daysBeforeYear year + rest = days + epoch ∧ rest < (monthLengths year).foldl (· + ·) 0 := by
  have hcycle : (days + epoch) / 146097 * 146097 + ((days + epoch) % 146097).toNat = days + epoch := by omega
  have hlt : ((days + epoch) % 146097).toNat < 146097 := by omega
  refine ⟨_, _, rfl, ?_, ?_⟩ <;>
    generalize ((days + epoch) % 146097).toNat = inCycle at hcycle hlt ⊢ <;>
    generalize (days + epoch) / 146097 = cycle at hcycle ⊢
  · rw [daysBeforeYear_eq cycle (by omega) (by omega) (by omega), ← hcycle]
    omega
  · rw [days_of_year]
    split
    · omega
    · rename_i hleap
      -- Only the last year of an olympiad could hold one day more, and that year is a leap year.
      refine Decidable.byContradiction fun hlong => ?_
      have hlast : min ((inCycle - min (inCycle / 36524) 3 * 36524 -
          (inCycle - min (inCycle / 36524) 3 * 36524) / 1461 * 1461) / 365) 3 = 3 := by omega
      rw [hlast] at hleap
      exact hleap (isLeapYear_last cycle (by omega) (by omega))

/-! ### Dates -/

/-- The date of a day is the day. -/
theorem toDays_ofDays (days : Int) : (ofDays days).toDays = days := by
  obtain ⟨year, rest, heq, hyear, hrest⟩ := ofDays_eq days
  obtain ⟨k, day, hmonth, -, -, hday⟩ := monthOfDay_eq 1 hrest
  rw [heq, hmonth, toDays, daysBeforeMonth]
  dsimp only
  rw [Nat.add_sub_cancel_left]
  omega

/-- The date of a day is a real one. -/
theorem valid_ofDays (days : Int) : (ofDays days).valid = true := by
  obtain ⟨year, rest, heq, -, hrest⟩ := ofDays_eq days
  obtain ⟨k, day, hmonth, hk, hlength, -⟩ := monthOfDay_eq 1 hrest
  have hmonths : (monthLengths year).length = 12 := rfl
  rw [heq, hmonth, valid]
  simp only [Bool.and_eq_true, decide_eq_true_eq, Nat.add_sub_cancel_left]
  omega

theorem month_le {d : Date} (h : d.valid = true) : d.month ≤ 12 := by
  simp only [valid, Bool.and_eq_true, decide_eq_true_eq] at h
  exact h.1.1.2

theorem day_le {d : Date} (h : d.valid = true) : d.day ≤ 31 := by
  have hall : ∀ n ∈ monthLengths d.year, n ≤ 31 := by
    unfold monthLengths
    cases isLeapYear d.year <;> decide
  simp only [valid, Bool.and_eq_true, decide_eq_true_eq, List.getD_eq_getElem?_getD] at h
  refine Nat.le_trans h.2 ?_
  cases hn : (monthLengths d.year)[d.month - 1]? with
  | none => exact Nat.zero_le 31
  | some n => exact hall n (List.mem_of_getElem? hn)

end PasskeySession.Date
