import ComputeDirectory.Time.Calendar

/-!
# Dates of the calendar

A date that was found for a count of days has a month of the year and a day of that month
(`isCivil_civilOfDays`), and its year is one of the years 1 to 9999 exactly if the count is one of
their days (`year_le_iff`, `one_le_year_iff`).
-/

namespace ComputeDirectory.Time

/-- A date with a month of the year and a day of the month. -/
structure CivilDate.IsCivil (date : CivilDate) : Prop where
  one_le_month : 1 ≤ date.month
  month_le : date.month ≤ 12
  one_le_day : 1 ≤ date.day
  day_le : date.day ≤ daysInMonth date.year date.month

theorem isLeapYear_iff (year : Int) :
    isLeapYear year = true ↔ year % 4 = 0 ∧ year % 100 ≠ 0 ∨ year % 400 = 0 := by
  simp [isLeapYear]

theorem daysInMonth_le (year month : Int) : daysInMonth year month ≤ 31 := by
  unfold daysInMonth
  split
  · split <;> omega
  · split <;> omega

/-! ## Leap days -/

/-- A year that begins in March has a day 365, its last, only if it ends with a leap day. -/
theorem isLeapYear_of_dayOfYear_eq {day : Int} (h : 0 ≤ day ∧ day < 146097)
    (hlast : day - daysBeforeYear (yearOfCycle day) = 365) (cycle : Int) :
    isLeapYear (yearOfCycle day + cycle * 400 + 1) = true := by
  rw [isLeapYear_iff]
  revert hlast
  simp only [yearOfCycle]
  generalize hc : min (day / 36524) 3 = century
  generalize hs : (day - 36524 * century) / 1461 = span
  generalize hr : (day - 36524 * century) % 1461 = dayOfSpan
  generalize hy : min (dayOfSpan / 365) 3 = year
  intro hlast
  have hcentury : 0 ≤ century ∧ century < 4 := by omega
  have hspan : 0 ≤ span ∧ span < 25 := by omega
  have hyear : 0 ≤ year ∧ year < 4 := by omega
  have hfour : (100 * century + 4 * span + year) / 4 = 25 * century + span := by omega
  have hhundred : (100 * century + 4 * span + year) / 100 = century := by omega
  rw [daysBeforeYear, hfour, hhundred] at hlast
  -- only the fourth year of a span has such a day; of the last spans, only that of the last century
  have hfourth : year = 3 := by omega
  have hcut : span = 24 → century = 3 := by omega
  omega

/-! ## Months -/

theorem isCivil_civilOfDays (days : Int) : (civilOfDays days).IsCivil := by
  have hday : 0 ≤ (days + 719468) % 146097 ∧ (days + 719468) % 146097 < 146097 := by omega
  obtain ⟨-, hdayOfYear⟩ := yearOfCycle_bounds hday
  have hleap := isLeapYear_of_dayOfYear_eq hday
  have hmonth := monthOfYear_bounds hdayOfYear
  simp only [civilOfDays]
  generalize yearOfCycle ((days + 719468) % 146097) = year at *
  generalize (days + 719468) / 146097 = cycle at *
  generalize (days + 719468) % 146097 - daysBeforeYear year = dayOfYear at *
  -- a month ends where the next one begins, and February where its year does
  have hwithin : daysBeforeMonth (monthOfYear dayOfYear) ≤ dayOfYear ∧
      dayOfYear < daysBeforeMonth (monthOfYear dayOfYear + 1) := by
    unfold daysBeforeMonth monthOfYear
    omega
  generalize monthOfYear dayOfYear = month at *
  unfold daysBeforeMonth at *
  split
  · refine ⟨?_, ?_, ?_, ?_⟩ <;> simp only [daysInMonth]
    · omega
    · omega
    · omega
    · rw [if_neg (by omega)]
      split <;> omega
  · refine ⟨?_, ?_, ?_, ?_⟩ <;> simp only [daysInMonth]
    · omega
    · omega
    · omega
    · by_cases hfebruary : month - 9 = 2
      · rw [if_pos hfebruary]
        by_cases hlast : dayOfYear = 365
        · rw [if_pos (hleap hlast cycle)]
          omega
        · split <;> omega
      · rw [if_neg hfebruary, if_neg (by omega)]
        omega

/-! ## Years -/

theorem CivilDate.IsCivil.year_le_iff {date : CivilDate} (h : date.IsCivil) :
    date.year ≤ 9999 ↔ daysOfCivil date < 2932897 := by
  obtain ⟨hmonth, hmonth', hday, hday'⟩ := h
  have hlength := daysInMonth_le date.year date.month
  simp only [daysOfCivil, daysBeforeYear, daysBeforeMonth]
  split <;> omega

theorem CivilDate.IsCivil.one_le_year_iff {date : CivilDate} (h : date.IsCivil) :
    1 ≤ date.year ↔ -719162 ≤ daysOfCivil date := by
  obtain ⟨hmonth, hmonth', hday, hday'⟩ := h
  have hlength := daysInMonth_le date.year date.month
  simp only [daysOfCivil, daysBeforeYear, daysBeforeMonth]
  split <;> omega

end ComputeDirectory.Time
