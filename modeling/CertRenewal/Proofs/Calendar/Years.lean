import CertRenewal.Proofs.Calendar
import CertRenewal.Proofs.Calendar.DayCount

/-!
# The year of a day

The days of a year lie between its first day and that of the next year, and first days come in the
order of their years. So the bounds of a day's number are bounds of its year, in both directions:
`dayNumber_bounds` for a date that is counted, and `year_ofDayNumber_bounds` for one that is found
from its number.
-/

namespace CertRenewal

namespace Date

/-- A date lies in its year. Of the day only that it is one of some month matters. -/
theorem dayNumber_bounds (year : Int) {month day : Nat} (hmonth : 1 ≤ month) (hmonth' : month ≤ 12)
    (hday : 1 ≤ day) (hday' : day ≤ 31) :
    dayNumber ⟨year, 1, 1⟩ ≤ dayNumber ⟨year, month, day⟩ ∧
      dayNumber ⟨year, month, day⟩ < dayNumber ⟨year + 1, 1, 1⟩ := by
  interval_cases month <;>
    simp only [dayNumber, Nat.reduceLeDiff, if_true, if_false] <;>
    omega

/-- The first days of years come in the order of the years. -/
theorem dayNumber_newYear_mono {year later : Int} (h : year ≤ later) :
    dayNumber ⟨year, 1, 1⟩ ≤ dayNumber ⟨later, 1, 1⟩ := by
  simp only [dayNumber, Nat.reduceLeDiff, if_true]
  omega

/-- The month and the day of a date that is found from its number. -/
theorem ofDayNumber_ranges (n : Int) :
    (1 ≤ (ofDayNumber n).month ∧ (ofDayNumber n).month ≤ 12) ∧
      1 ≤ (ofDayNumber n).day ∧ (ofDayNumber n).day ≤ 31 := by
  have hday : 0 ≤ (n + 719468) % 146097 ∧ (n + 719468) % 146097 < 146097 := by omega
  simp only [ofDayNumber]
  generalize (n + 719468) % 146097 = dayOfEra at hday
  obtain ⟨-, -, hstart, hend⟩ := yearOfEra_bounds hday.1 hday.2
  generalize (dayOfEra - dayOfEra / 1460 + dayOfEra / 36524 - dayOfEra / 146096) / 365 = year
    at hstart hend
  obtain ⟨dayOfYear, hdayOfYear⟩ : ∃ d, d = dayOfEra - (365 * year + year / 4 - year / 100) :=
    ⟨_, rfl⟩
  rw [← hdayOfYear]
  have hmonth := marchMonth_bounds (show 0 ≤ dayOfYear by omega) (show dayOfYear ≤ 365 by omega)
  refine ⟨?_, ?_⟩
  · split <;> omega
  · omega

/-- A day lies in the years whose days are around it. -/
theorem year_ofDayNumber_bounds {n first last : Int} (hfirst : dayNumber ⟨first, 1, 1⟩ ≤ n)
    (hlast : n < dayNumber ⟨last + 1, 1, 1⟩) :
    first ≤ (ofDayNumber n).year ∧ (ofDayNumber n).year ≤ last := by
  obtain ⟨⟨hmonth, hmonth'⟩, hday, hday'⟩ := ofDayNumber_ranges n
  obtain ⟨hstart, hend⟩ := dayNumber_bounds (ofDayNumber n).year hmonth hmonth' hday hday'
  have hnumber : dayNumber ⟨(ofDayNumber n).year, (ofDayNumber n).month, (ofDayNumber n).day⟩ = n :=
    dayNumber_ofDayNumber n
  rw [hnumber] at hstart hend
  constructor
  · by_contra hbefore
    have hmono := dayNumber_newYear_mono (show (ofDayNumber n).year + 1 ≤ first by omega)
    omega
  · by_contra hafter
    have hmono := dayNumber_newYear_mono (show last + 1 ≤ (ofDayNumber n).year by omega)
    omega

end Date

namespace Instant

/-- A civil time lies in the year of its date. -/
theorem ofCivil_bounds {date : Date} (hdate : date.exists? = true) {hour minute second : Nat}
    (hhour : hour ≤ 23) (hminute : minute ≤ 59) (hsecond : second ≤ 59) :
    Date.dayNumber ⟨date.year, 1, 1⟩ * secondsPerDay ≤
        (ofCivil date hour minute second).seconds ∧
      (ofCivil date hour minute second).seconds <
        Date.dayNumber ⟨date.year + 1, 1, 1⟩ * secondsPerDay := by
  obtain ⟨year, month, day⟩ := date
  obtain ⟨⟨hmonth, hmonth'⟩, hday, hday'⟩ := Date.exists?_iff.mp hdate
  have hlength := Date.daysInMonth_le year month
  have hbounds := Date.dayNumber_bounds year hmonth hmonth' hday (by omega)
  simp only [ofCivil, ofSeconds, secondsPerDay]
  omega

/-- An instant lies in the years whose seconds are around it. -/
theorem year_date_bounds {t : Instant} {first last : Int}
    (hfirst : Date.dayNumber ⟨first, 1, 1⟩ * secondsPerDay ≤ t.seconds)
    (hlast : t.seconds < Date.dayNumber ⟨last + 1, 1, 1⟩ * secondsPerDay) :
    first ≤ t.date.year ∧ t.date.year ≤ last := by
  unfold secondsPerDay at hfirst hlast
  refine Date.year_ofDayNumber_bounds ?_ ?_
  · show Date.dayNumber ⟨first, 1, 1⟩ ≤ t.seconds / 86400
    omega
  · show t.seconds / 86400 < Date.dayNumber ⟨last + 1, 1, 1⟩
    omega

end Instant

end CertRenewal
