import CertRenewal.Calendar
import Mathlib.Data.List.Basic
import Mathlib.Tactic.IntervalCases

/-!
# The number of a day is a count of days

`daysBefore` counts days by the calendar alone, year by year from the year zero and then month by
month. `dayNumber_eq_daysBefore` says that the number of a day is the difference between such counts
for the day and for the first day of 1970.
-/

namespace CertRenewal.Date

def daysInYear (year : Int) : Nat := if isLeapYear year then 366 else 365

/-- The number of days from the first day of the year zero to a day. -/
def daysBefore (year month day : Nat) : Nat :=
  ((List.range year).map fun y : Nat => daysInYear y).sum +
    ((List.range (month - 1)).map fun m => daysInMonth year (m + 1)).sum + (day - 1)

theorem isLeapYear_iff (year : Int) :
    isLeapYear year = true ↔ year % 4 = 0 ∧ (year % 100 ≠ 0 ∨ year % 400 = 0) := by
  simp [isLeapYear]

theorem exists?_iff {year : Int} {month day : Nat} :
    (Date.mk year month day).exists? = true ↔
      (1 ≤ month ∧ month ≤ 12) ∧ 1 ≤ day ∧ day ≤ daysInMonth year month := by
  simp [exists?, and_assoc]

theorem daysInMonth_le (year : Int) (month : Nat) : daysInMonth year month ≤ 31 := by
  simp only [daysInMonth]
  split_ifs <;> split <;> decide

/-- A year has as many days as lie between its first day and that of the next year. -/
theorem dayNumber_nextYear (year : Int) :
    dayNumber ⟨year + 1, 1, 1⟩ = dayNumber ⟨year, 1, 1⟩ + daysInYear year := by
  simp only [dayNumber, daysInYear, isLeapYear_iff, Nat.reduceLeDiff, if_true]
  split <;> omega

/-- So does a month. Before March a year counts as part of the one before it. -/
theorem dayNumber_nextMonth (year : Int) {month : Nat} (hleast : 1 ≤ month) (hlast : month < 12) :
    dayNumber ⟨year, month + 1, 1⟩ = dayNumber ⟨year, month, 1⟩ + daysInMonth year month := by
  by_cases hleap : year % 4 = 0 ∧ (year % 100 ≠ 0 ∨ year % 400 = 0)
  all_goals
    have hyear := hleap
    rw [← isLeapYear_iff] at hyear
    interval_cases month <;>
      simp only [dayNumber, daysInMonth, hyear, Nat.reduceLeDiff, Nat.reduceAdd, if_true, if_false,
        Bool.false_eq_true] <;>
      omega

/-- The formula by eras counts the years from the year zero on one by one. -/
theorem dayNumber_newYear (year : Nat) :
    dayNumber ⟨year, 1, 1⟩ =
      dayNumber ⟨0, 1, 1⟩ + ((List.range year).map fun y : Nat => daysInYear y).sum := by
  induction year with
  | zero => rfl
  | succ year ih =>
    have hnext := dayNumber_nextYear year
    rw [List.range_succ, List.map_append, List.sum_append, List.map_singleton, List.sum_singleton,
      Nat.cast_succ]
    omega

/-- Within a year it counts the months one by one. -/
theorem dayNumber_firstOfMonth (year : Int) {month : Nat} (hlast : month < 12) :
    dayNumber ⟨year, month + 1, 1⟩ = dayNumber ⟨year, 1, 1⟩ +
      ((List.range month).map fun m => daysInMonth year (m + 1)).sum := by
  induction month with
  | zero => simp
  | succ month ih =>
    have hnext : dayNumber ⟨year, month + 1 + 1, 1⟩ = _ :=
      dayNumber_nextMonth year (Nat.le_add_left 1 month) hlast
    have hbefore := ih (Nat.lt_of_succ_lt hlast)
    rw [List.range_succ, List.map_append, List.sum_append, List.map_singleton, List.sum_singleton]
    omega

/-- The days of a month follow its first. -/
theorem dayNumber_eq_firstOfMonth (d : Date) :
    d.dayNumber = dayNumber ⟨d.year, d.month, 1⟩ + (d.day - 1) := by
  simp only [dayNumber]
  omega

/-- The formula counts the days up to any day. -/
theorem dayNumber_eq_add_daysBefore (year : Nat) {month day : Nat} (hmonth : 1 ≤ month)
    (hmonth' : month ≤ 12) (hday : 1 ≤ day) :
    dayNumber ⟨year, month, day⟩ = dayNumber ⟨0, 1, 1⟩ + daysBefore year month day := by
  have hfirst := dayNumber_firstOfMonth year (show month - 1 < 12 by omega)
  rw [Nat.sub_add_cancel hmonth, dayNumber_newYear] at hfirst
  rw [dayNumber_eq_firstOfMonth, hfirst, daysBefore]
  dsimp only
  omega

/-- The day of a date is as many days behind the first day of 1970 as the calendar counts. -/
theorem dayNumber_eq_daysBefore {year month day : Nat}
    (h : (Date.mk year month day).exists? = true) :
    dayNumber ⟨year, month, day⟩ = (daysBefore year month day : Int) - daysBefore 1970 1 1 := by
  obtain ⟨⟨hmonth, hmonth'⟩, hday, -⟩ := exists?_iff.mp h
  have hepoch : dayNumber ⟨(1970 : Nat), 1, 1⟩ = 0 := by decide
  rw [dayNumber_eq_add_daysBefore 1970 (Nat.le_refl 1) (by decide) (Nat.le_refl 1)] at hepoch
  rw [dayNumber_eq_add_daysBefore year hmonth hmonth' hday]
  omega

end CertRenewal.Date
