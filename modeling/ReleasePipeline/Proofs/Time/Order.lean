import Mathlib.Tactic.IntervalCases
import ReleasePipeline.Proofs.Time.Calendar

/-!
# `ReleasePipeline.Proofs.Time.Order`: dates follow each other as the days do

`Date.toDay` counts a year from its first of March, which suits the arithmetic. The order of dates
is that of years, months and days as they are written, so here a day is counted from the first of
January (`toDay_eq`). A month then begins where the one before it ends, and a year where its
twelve months end (`daysBefore_succ`, `newYear_succ`), so an earlier date is an earlier day
(`toDay_lt_toDay`). As every day has one date in the calendar, the dates of two days stand in the
order of the days (`before_ofDay`).
-/

set_option autoImplicit false

namespace ReleasePipeline.Proofs

open Date (daysInMonth isLeapYear)

/-- Whether a date comes before another one, by year, then by month, then by day. -/
def Before (first second : Date) : Prop :=
  first.year < second.year ∨ first.year = second.year ∧
    (first.month < second.month ∨ first.month = second.month ∧ first.day < second.day)

/-- Of two dates one is before the other, or they are the same. -/
theorem before_trichotomy (first second : Date) :
    Before first second ∨ first = second ∨ Before second first := by
  obtain ⟨year, month, day⟩ := first
  obtain ⟨year', month', day'⟩ := second
  simp only [Before, Date.mk.injEq]
  omega

/-! ### The beginning of years and months -/

/-- The day on which a year begins. -/
def newYear (year : Int) : Int :=
  365 * (year - 1) + (year - 1) / 4 - (year - 1) / 100 + (year - 1) / 400 + 306 - Date.epoch

/-- The days of a year that lie before a month of it, or before its end for the month 13. -/
def daysBefore (year : Int) (month : Nat) : Nat :=
  if month ≤ 2 then 31 * (month - 1)
  else (153 * (month - 3) + 2) / 5 + if isLeapYear year then 60 else 59

/-- The day of a date is counted from the beginning of its year. -/
theorem toDay_eq (date : Date) (h : 1 ≤ date.month) :
    date.toDay = newYear date.year + daysBefore date.year date.month + date.day - 1 := by
  unfold Date.toDay newYear daysBefore
  simp only [isLeapYear_iff]
  split
  · omega
  · split <;> omega

/-- A month begins where the one before it ends. -/
theorem daysBefore_succ (year : Int) {month : Nat} (h : 1 ≤ month ∧ month ≤ 12) :
    daysBefore year (month + 1) = daysBefore year month + daysInMonth year month := by
  obtain ⟨hlow, hhigh⟩ := h
  unfold daysBefore daysInMonth
  cases isLeapYear year <;> interval_cases month <;> rfl

/-- A year begins where the one before it ends. -/
theorem newYear_succ (year : Int) : newYear (year + 1) = newYear year + daysBefore year 13 := by
  unfold newYear daysBefore
  rw [if_neg (by decide)]
  simp only [isLeapYear_iff]
  split <;> omega

/-- A later year starts later. -/
theorem newYear_mono {first second : Int} (h : first ≤ second) :
    newYear first ≤ newYear second := by
  unfold newYear
  omega

/-- More days lie before a later month. -/
theorem daysBefore_mono (year : Int) {first second : Nat} (h : first ≤ second) :
    daysBefore year first ≤ daysBefore year second := by
  unfold daysBefore
  by_cases hfirst : first ≤ 2
  · rw [if_pos hfirst]
    split
    · omega
    · split <;> omega
  · have hsecond : ¬ second ≤ 2 := by omega
    rw [if_neg hfirst, if_neg hsecond]
    omega

/-! ### The order of dates -/

/-- Of two dates in the calendar the earlier one is the earlier day. -/
theorem toDay_lt_toDay {first second : Date} (hfirst : first.isValid = true)
    (hsecond : second.isValid = true) (h : Before first second) : first.toDay < second.toDay := by
  obtain ⟨hmonth, hday, hdays⟩ := (isValid_iff first).mp hfirst
  obtain ⟨hmonth', hday', -⟩ := (isValid_iff second).mp hsecond
  have hnext := daysBefore_succ first.year hmonth
  rw [toDay_eq first hmonth.1, toDay_eq second hmonth'.1]
  rcases h with hyear | ⟨hyear, hless | ⟨hsame, hless⟩⟩
  · -- The month ends no later than its year, which ends where the next one begins.
    have hend : daysBefore first.year (first.month + 1) ≤ daysBefore first.year 13 :=
      daysBefore_mono first.year (Nat.add_le_add_right hmonth.2 1)
    have hsucc := newYear_succ first.year
    have hyears := newYear_mono (Int.add_one_le_of_lt hyear)
    omega
  · have hmonths := daysBefore_mono first.year (Nat.add_one_le_of_lt hless)
    rw [← hyear]
    omega
  · rw [← hyear, ← hsame]
    omega

/-- The dates of days follow each other as the days do. -/
theorem before_ofDay {first second : Int} (h : first < second) :
    Before (Date.ofDay first) (Date.ofDay second) := by
  rcases before_trichotomy (Date.ofDay first) (Date.ofDay second) with hbefore | hsame | hafter
  · exact hbefore
  · have hday := congrArg Date.toDay hsame
    rw [Date.toDay_ofDay, Date.toDay_ofDay] at hday
    exact absurd hday (ne_of_lt h)
  · have hday := toDay_lt_toDay (isValid_ofDay second) (isValid_ofDay first) hafter
    rw [Date.toDay_ofDay, Date.toDay_ofDay] at hday
    exact absurd h (Int.not_lt.mpr (Int.le_of_lt hday))

end ReleasePipeline.Proofs
