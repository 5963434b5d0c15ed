import ReleasePipeline.Text.Decimal

/-!
# `ReleasePipeline.Time.Calendar`: days and civil dates

Days are counted from 1970-01-01, and dates belong to the proleptic Gregorian calendar: the same
leap rule holds for every year, before and after the reform, and the year before 1 is 0.

`Date.ofDay` splits a day into the 400-year era, the century, the four-year group and the year
that hold it. Years are taken to begin in March, so that the leap day is the last day of a year
and each part but the last of its kind has a fixed length. `Date.toDay` is the way back.
-/

set_option autoImplicit false

namespace ReleasePipeline

/-- A civil date. -/
structure Date where
  year : Int
  month : Nat
  day : Nat
  deriving DecidableEq, Repr

namespace Date

/-- The day 1970-01-01, counted from 0000-03-01. -/
def epoch : Int := 719468

/-- The days of 400 years. -/
def eraDays : Int := 146097

/-- The date of a day that lies `offset` days after the first of March of a year. -/
def ofYearDay (year : Int) (offset : Int) : Date :=
  let shifted := (5 * offset + 2) / 153
  let day := offset - (153 * shifted + 2) / 5 + 1
  -- January and February belong to the year that began with the March before them.
  if shifted < 10 then ⟨year, (shifted + 3).toNat, day.toNat⟩
  else ⟨year + 1, (shifted - 9).toNat, day.toNat⟩

/-- The date of a day. -/
def ofDay (day : Int) : Date :=
  let fromEra := day + epoch
  let era := fromEra / eraDays
  let inEra := fromEra % eraDays
  -- The last century of an era and the last year of a group are a day longer than the others,
  -- and that day would open a fifth one.
  let century := min (inEra / 36524) 3
  let inCentury := inEra - 36524 * century
  let group := inCentury / 1461
  let inGroup := inCentury - 1461 * group
  let year := min (inGroup / 365) 3
  ofYearDay (400 * era + 100 * century + 4 * group + year) (inGroup - 365 * year)

/-- The day of a date. -/
def toDay (date : Date) : Int :=
  let year := if date.month ≤ 2 then date.year - 1 else date.year
  let shifted : Int := if date.month ≤ 2 then date.month + 9 else date.month - 3
  365 * year + year / 4 - year / 100 + year / 400 + (153 * shifted + 2) / 5
    + date.day - 1 - epoch

/-- Whether a year has a leap day. -/
def isLeapYear (year : Int) : Bool :=
  year % 4 == 0 && (year % 100 != 0 || year % 400 == 0)

/-- The number of days of a month. -/
def daysInMonth (year : Int) (month : Nat) : Nat :=
  if month == 2 then (if isLeapYear year then 29 else 28)
  else if month == 4 || month == 6 || month == 9 || month == 11 then 30
  else 31

/-- Whether a date stands in the calendar. -/
def isValid (date : Date) : Bool :=
  1 ≤ date.month && date.month ≤ 12 && 1 ≤ date.day && date.day ≤ daysInMonth date.year date.month

/-- A date that lies `offset` days after the first of March is counted as such. -/
theorem toDay_ofYearDay (year offset : Int) (h : 0 ≤ offset ∧ offset ≤ 365) :
    (ofYearDay year offset).toDay =
      365 * year + year / 4 - year / 100 + year / 400 + offset - epoch := by
  simp only [ofYearDay]
  split
  · simp only [toDay]
    split <;> omega
  · simp only [toDay]
    split <;> omega

/-- The year of a day in its era, by century, four-year group and year in the group, begins as
many days into the era as these parts are long. -/
theorem era_split (era century group year : Int) (hc : 0 ≤ century ∧ century ≤ 3)
    (hg : 0 ≤ group ∧ group ≤ 24) (hy : 0 ≤ year ∧ year ≤ 3) :
    let whole := 400 * era + 100 * century + 4 * group + year
    365 * whole + whole / 4 - whole / 100 + whole / 400 =
      eraDays * era + 36524 * century + 1461 * group + 365 * year := by
  -- Each part is too small to reach the next multiple, so the divisions give the counts back.
  have h₄ : (400 * era + 100 * century + 4 * group + year) / 4
      = 100 * era + 25 * century + group := by omega
  have h₁₀₀ : (400 * era + 100 * century + 4 * group + year) / 100 = 4 * era + century := by omega
  have h₄₀₀ : (400 * era + 100 * century + 4 * group + year) / 400 = era := by omega
  simp only [h₄, h₁₀₀, h₄₀₀, eraDays]
  omega

/-- The way from a day to its date and back to the day loses nothing. -/
theorem toDay_ofDay (day : Int) : (ofDay day).toDay = day := by
  simp only [ofDay]
  rw [toDay_ofYearDay _ _ (by simp only [eraDays]; omega),
    era_split _ _ _ _ (by simp only [eraDays]; omega) (by simp only [eraDays]; omega)
      (by simp only [eraDays]; omega)]
  simp only [epoch, eraDays]
  omega

/-- The text of a year: four digits, or a sign in front of at least four where four do not do. -/
def yearText (year : Int) : List Char :=
  if 0 ≤ year ∧ year ≤ 9999 then Text.paddedDigits 4 year.toNat
  else (if year < 0 then '-' else '+') :: Text.paddedDigits 4 year.natAbs

/-- The date as `YYYY-MM-DD`. -/
def text (date : Date) : List Char :=
  yearText date.year ++ '-' :: Text.paddedDigits 2 date.month ++
    '-' :: Text.paddedDigits 2 date.day

end Date
end ReleasePipeline
