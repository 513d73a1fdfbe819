/-!
# The Gregorian calendar

Days are counted from the first of January 1970. Both directions work on years that begin in March,
so that the leap day is the last day of a year, inside a cycle of 400 years of 146097 days.

Main statement: `daysOfCivil_civilOfDays`, the count of a date that was found for a count is that
count.
-/

namespace ComputeDirectory.Time

/-- A date of the proleptic Gregorian calendar. -/
structure CivilDate where
  year : Int
  month : Int
  day : Int
  deriving DecidableEq, Repr

/-! ## Years that begin in March -/

/-- Days of a cycle before its year `year`, which counts from zero to 399. -/
def daysBeforeYear (year : Int) : Int := 365 * year + year / 4 - year / 100

/-- Days of a year before its month `month`, which counts from zero, March, to eleven. -/
def daysBeforeMonth (month : Int) : Int := (153 * month + 2) / 5

/-- The year of a cycle that holds a day of the cycle: full centuries of 36524 days, then full spans
of four years, then full years; the last century, and the last year of a span, may be a day longer.
-/
def yearOfCycle (day : Int) : Int :=
  let century := min (day / 36524) 3
  let dayOfCentury := day - 36524 * century
  let span := dayOfCentury / 1461
  100 * century + 4 * span + min (dayOfCentury % 1461 / 365) 3

/-- The month that holds a day of a year. -/
def monthOfYear (day : Int) : Int := (5 * day + 2) / 153

/-- The year of a day is one of the cycle, begins no later than the day, and ends after it. -/
theorem yearOfCycle_bounds {day : Int} (h : 0 ≤ day ∧ day < 146097) :
    (0 ≤ yearOfCycle day ∧ yearOfCycle day < 400) ∧
      0 ≤ day - daysBeforeYear (yearOfCycle day) ∧
      day - daysBeforeYear (yearOfCycle day) < 366 := by
  simp only [yearOfCycle]
  generalize hc : min (day / 36524) 3 = century
  generalize hs : (day - 36524 * century) / 1461 = span
  generalize hr : (day - 36524 * century) % 1461 = dayOfSpan
  generalize hy : min (dayOfSpan / 365) 3 = year
  have hcentury : 0 ≤ century ∧ century < 4 := by omega
  have hspan : 0 ≤ span ∧ span < 25 := by omega
  have hyear : 0 ≤ year ∧ year < 4 ∧ 0 ≤ dayOfSpan - 365 * year ∧ dayOfSpan - 365 * year < 366 := by
    omega
  have hfour : (100 * century + 4 * span + year) / 4 = 25 * century + span := by omega
  have hhundred : (100 * century + 4 * span + year) / 100 = century := by omega
  rw [daysBeforeYear, hfour, hhundred]
  omega

theorem monthOfYear_bounds {day : Int} (h : 0 ≤ day ∧ day < 366) :
    0 ≤ monthOfYear day ∧ monthOfYear day < 12 := by
  unfold monthOfYear
  omega

/-! ## Dates and counts of days -/

/-- Days from the first of January 1970 to a date. -/
def daysOfCivil (date : CivilDate) : Int :=
  let year := if date.month ≤ 2 then date.year - 1 else date.year
  let month := if date.month ≤ 2 then date.month + 9 else date.month - 3
  year / 400 * 146097 + daysBeforeYear (year % 400) + daysBeforeMonth month + date.day - 719469

/-- The date a number of days from the first of January 1970. -/
def civilOfDays (days : Int) : CivilDate :=
  let cycle := (days + 719468) / 146097
  let dayOfCycle := (days + 719468) % 146097
  let year := yearOfCycle dayOfCycle
  let dayOfYear := dayOfCycle - daysBeforeYear year
  let month := monthOfYear dayOfYear
  let day := dayOfYear - daysBeforeMonth month + 1
  if month < 10 then ⟨year + cycle * 400, month + 3, day⟩
  else ⟨year + cycle * 400 + 1, month - 9, day⟩

/-- Whether February has 29 days. -/
def isLeapYear (year : Int) : Bool :=
  (year % 4 == 0 && year % 100 != 0) || year % 400 == 0

/-- How many days a month has. -/
def daysInMonth (year month : Int) : Int :=
  if month = 2 then if isLeapYear year then 29 else 28
  else if month = 4 ∨ month = 6 ∨ month = 9 ∨ month = 11 then 30
  else 31

/-- Counting the days of a date that was found for a count gives the count back. -/
theorem daysOfCivil_civilOfDays (days : Int) : daysOfCivil (civilOfDays days) = days := by
  have hday : 0 ≤ (days + 719468) % 146097 ∧ (days + 719468) % 146097 < 146097 := by omega
  obtain ⟨hyear, hdayOfYear⟩ := yearOfCycle_bounds hday
  have hmonth := monthOfYear_bounds hdayOfYear
  simp only [civilOfDays]
  generalize yearOfCycle ((days + 719468) % 146097) = year at *
  generalize monthOfYear ((days + 719468) % 146097 - daysBeforeYear year) = month at *
  have hmod : ∀ cycle, (year + cycle * 400) % 400 = year := by omega
  have hdiv : ∀ cycle, (year + cycle * 400) / 400 = cycle := by omega
  split
  · have h : ¬ month + 3 ≤ 2 := by omega
    simp only [daysOfCivil, h, if_false, hmod, hdiv, Int.add_sub_cancel]
    omega
  · have h : month - 9 ≤ 2 := by omega
    simp only [daysOfCivil, h, if_true, hmod, hdiv, Int.add_sub_cancel, Int.sub_add_cancel]
    omega

end ComputeDirectory.Time
