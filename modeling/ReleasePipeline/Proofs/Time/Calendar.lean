import ReleasePipeline.Time.Calendar

/-!
# `ReleasePipeline.Proofs.Time.Calendar`: the date of a day stands in the calendar

`Date.toDay_ofDay` says that no day is lost on the way to its date and back. Here is the other half
of what a reader of dates relies on: the date of a day is one that the calendar has
(`isValid_ofDay`). The only date that needs care is the 29th of February. It is the last day of a
year that begins in March, so it lies 365 days after the first of March, and `isLeapYear_of_last`
says that the division into eras, centuries and groups only ever comes to that day in a leap year.
-/

set_option autoImplicit false

namespace ReleasePipeline.Proofs

open Date (ofYearDay ofDay isValid isLeapYear daysInMonth eraDays)

/-- A date is valid when its month exists and has its day. -/
theorem isValid_iff (date : Date) : isValid date = true ↔
    (1 ≤ date.month ∧ date.month ≤ 12) ∧
      1 ≤ date.day ∧ date.day ≤ daysInMonth date.year date.month := by
  unfold isValid
  simp only [Bool.and_eq_true, decide_eq_true_eq, and_assoc]

/-- Every fourth year is a leap year, but of the full centuries only every fourth one. -/
theorem isLeapYear_iff (year : Int) :
    isLeapYear year = true ↔ year % 4 = 0 ∧ (year % 100 ≠ 0 ∨ year % 400 = 0) := by
  simp only [isLeapYear, Bool.and_eq_true, Bool.or_eq_true, beq_iff_eq, bne_iff_ne]

/-- Every month has at least as many days as in a common year. -/
theorem le_daysInMonth (year : Int) (month : Nat) :
    (if month = 2 then 28
      else if month = 4 ∨ month = 6 ∨ month = 9 ∨ month = 11 then 30 else 31) ≤
      daysInMonth year month := by
  unfold daysInMonth
  simp only [beq_iff_eq, Bool.or_eq_true]
  split
  · split <;> decide
  · split
    · next h =>
        have hthirty : ((month = 4 ∨ month = 6) ∨ month = 9) ∨ month = 11 := by omega
        exact Nat.le_of_eq (if_pos hthirty).symm
    · next h =>
        have hnot : ¬ (((month = 4 ∨ month = 6) ∨ month = 9) ∨ month = 11) := by omega
        exact Nat.le_of_eq (if_neg hnot).symm

/-- No month has more than 31 days. -/
theorem daysInMonth_le (year : Int) (month : Nat) : daysInMonth year month ≤ 31 := by
  unfold daysInMonth
  split
  · split <;> decide
  · split <;> decide

/-- A day that lies fewer than 365 days after the first of March has a date in the calendar. -/
theorem isValid_ofYearDay (year offset : Int) (h : 0 ≤ offset ∧ offset ≤ 364) :
    isValid (ofYearDay year offset) = true := by
  have hmonth : ∀ (other : Int) (month day : Nat), 1 ≤ month → month ≤ 12 → 1 ≤ day →
      day ≤ (if month = 2 then 28
        else if month = 4 ∨ month = 6 ∨ month = 9 ∨ month = 11 then 30 else 31) →
      isValid ⟨other, month, day⟩ = true := by
    intro other month day hlow hhigh hday hle
    have hdays := Nat.le_trans hle (le_daysInMonth other month)
    exact (isValid_iff _).mpr ⟨⟨hlow, hhigh⟩, hday, hdays⟩
  unfold ofYearDay
  -- The months from March on begin at fixed offsets, and each case is one of them.
  have hshifted : 0 ≤ (5 * offset + 2) / 153 ∧ (5 * offset + 2) / 153 ≤ 11 := by omega
  generalize hs : (5 * offset + 2) / 153 = shifted at hshifted ⊢
  simp only
  split
  · refine hmonth _ _ _ (by omega) (by omega) (by omega) ?_
    split
    · omega
    · split <;> omega
  · refine hmonth _ _ _ (by omega) (by omega) (by omega) ?_
    split
    · omega
    · split <;> omega

/-- Where the division of an era comes to the last day of a year of 366 days, the next year is a
leap year. -/
theorem isLeapYear_of_last (era century group : Int) (hgroup : 0 ≤ group ∧ group ≤ 24)
    (hlast : group = 24 → century = 3) :
    isLeapYear (400 * era + 100 * century + 4 * group + 3 + 1) = true := by
  have hfour : (400 * era + 100 * century + 4 * group + 3 + 1) % 4 = 0 := by omega
  -- The year is a multiple of 100 only in the 25th group, and then it is one of 400 as well.
  have hcases : (400 * era + 100 * century + 4 * group + 3 + 1) % 100 ≠ 0 ∨
      (400 * era + 100 * century + 4 * group + 3 + 1) % 400 = 0 := by
    by_cases hfull : group = 24
    · have hthree := hlast hfull
      omega
    · omega
  exact (isLeapYear_iff _).mpr ⟨hfour, hcases⟩

/-- The date of a day stands in the calendar. -/
theorem isValid_ofDay (day : Int) : isValid (ofDay day) = true := by
  unfold ofDay
  simp only
  -- The parts of the division are named, so that what is left is a matter of bounds.
  generalize hera : (day + Date.epoch) / eraDays = era
  generalize hinEra : (day + Date.epoch) % eraDays = inEra
  have hbound : 0 ≤ inEra ∧ inEra ≤ 146096 := by
    unfold eraDays at hinEra
    omega
  generalize hcentury : min (inEra / 36524) 3 = century
  generalize hinCentury : inEra - 36524 * century = inCentury
  generalize hgroup : inCentury / 1461 = group
  generalize hinGroup : inCentury - 1461 * group = inGroup
  generalize hyear : min (inGroup / 365) 3 = year
  have hcenturies : 0 ≤ century ∧ century ≤ 3 := by omega
  have hcenturyDays : 0 ≤ inCentury ∧ inCentury ≤ 36524 := by omega
  have hgroups : 0 ≤ group ∧ group ≤ 24 := by omega
  have hgroupDays : 0 ≤ inGroup ∧ inGroup ≤ 1460 := by omega
  by_cases hlast : inGroup - 365 * year = 365
  · -- Only the fourth year of a group has such a day, and in a 25th group only in the last century.
    have hthree : year = 3 := by omega
    have hfull : group = 24 → century = 3 := by omega
    have hleap := isLeapYear_of_last era century group hgroups hfull
    rw [hthree] at hlast ⊢
    rw [hlast]
    show isValid ⟨400 * era + 100 * century + 4 * group + 3 + 1, 2, 29⟩ = true
    simp only [isValid, daysInMonth, hleap]
    rfl
  · exact isValid_ofYearDay _ _ (by omega)

end ReleasePipeline.Proofs
