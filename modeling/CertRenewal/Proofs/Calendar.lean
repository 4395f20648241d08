import CertRenewal.Calendar
import CertRenewal.Proofs.Text.Digits
import Mathlib.Data.List.Basic

/-!
# Dates tell the instant

`dayNumber_ofDayNumber` is that the civil date of a day has the number of the day. A date in text is
then taken apart from the left: digits end where something else begins, so each part tells a number
and what follows it (`Date.text_append_inj`, `timeText_append_inj`), and the fraction tells the
nanoseconds by how many digits it has. `rfc3339Text_injective` is the main statement.
-/

namespace CertRenewal

open CertRenewal.Text

namespace Date

/-! ## The number of a day -/

/-- The year of an era that a day of it lies in, where a year starts after as many days as the
years before it have. -/
theorem yearOfEra_bounds {day : Int} (hleast : 0 ≤ day) (hlast : day < 146097) :
    let year := (day - day / 1460 + day / 36524 - day / 146096) / 365
    0 ≤ year ∧ year < 400 ∧ 365 * year + year / 4 - year / 100 ≤ day ∧
      day ≤ 365 * year + year / 4 - year / 100 + 365 := by
  intro year
  have hyear : 0 ≤ year ∧ year < 400 := by omega
  -- Leap years are regular within a century, of days as of years.
  have hdays : day / 36524 = 0 ∨ day / 36524 = 1 ∨ day / 36524 = 2 ∨ day / 36524 = 3 ∨
      day / 36524 = 4 := by omega
  have hyears : year / 100 = 0 ∨ year / 100 = 1 ∨ year / 100 = 2 ∨ year / 100 = 3 := by omega
  refine ⟨hyear.1, hyear.2, ?_⟩
  rcases hdays with hdays | hdays | hdays | hdays | hdays <;>
    rcases hyears with hyears | hyears | hyears | hyears <;> omega

/-- The month, counted from March, that a day of a year lies in. -/
theorem marchMonth_bounds {day : Int} (hleast : 0 ≤ day) (hlast : day ≤ 365) :
    let month := (5 * day + 2) / 153
    0 ≤ month ∧ month < 12 ∧ (153 * month + 2) / 5 ≤ day := by
  intro month
  omega

/-- The civil date of a day has the number of the day. -/
theorem dayNumber_ofDayNumber (n : Int) : (ofDayNumber n).dayNumber = n := by
  have hsplit : (n + 719468) / 146097 * 146097 + (n + 719468) % 146097 = n + 719468 := by omega
  have hday : 0 ≤ (n + 719468) % 146097 ∧ (n + 719468) % 146097 < 146097 := by omega
  rw [ofDayNumber]
  generalize (n + 719468) / 146097 = era at hsplit
  generalize (n + 719468) % 146097 = dayOfEra at hsplit hday
  obtain ⟨hyear, hyear', hstart, hend⟩ := yearOfEra_bounds hday.1 hday.2
  generalize (dayOfEra - dayOfEra / 1460 + dayOfEra / 36524 - dayOfEra / 146096) / 365 = year
    at hyear hyear' hstart hend ⊢
  obtain ⟨dayOfYear, hdayOfYear⟩ : ∃ d, d = dayOfEra - (365 * year + year / 4 - year / 100) :=
    ⟨_, rfl⟩
  rw [← hdayOfYear]
  obtain ⟨hmonth, hmonth', hbefore⟩ :=
    marchMonth_bounds (show 0 ≤ dayOfYear by omega) (show dayOfYear ≤ 365 by omega)
  generalize (5 * dayOfYear + 2) / 153 = month at hmonth hmonth' hbefore ⊢
  have hera : (year + era * 400) / 400 = era := by omega
  have hyearOfEra : (year + era * 400) % 400 = year := by omega
  by_cases hten : month < 10
  · have hlate : ¬ month + 3 ≤ 2 := by omega
    have hlate' : ¬ (month + 3).toNat ≤ 2 := by omega
    have hback : ((month + 3).toNat : Int) - 3 = month := by omega
    rw [dayNumber]
    simp only [if_pos hten, if_neg hlate, if_neg hlate', hback, hera, hyearOfEra]
    omega
  · have hearly : month - 9 ≤ 2 := by omega
    have hearly' : (month - 9).toNat ≤ 2 := by omega
    have hback : ((month - 9).toNat : Int) + 9 = month := by omega
    rw [dayNumber]
    simp only [if_neg hten, if_pos hearly, if_pos hearly', hback, Int.add_sub_cancel, hera,
      hyearOfEra]
    omega

/-! ## Years -/

def yearOfText : List Char → Int
  | '-' :: digits => -(natOfDigits digits : Int)
  | '+' :: digits => natOfDigits digits
  | digits => natOfDigits digits

/-- Digits have no sign before them. -/
theorem yearOfText_paddedDigits (width n : Nat) : yearOfText (paddedDigits width n) = n := by
  have hdigits : ∀ c ∈ paddedDigits width n, isDigit c = true :=
    fun c => isDigit_of_mem_paddedDigits
  rw [yearOfText.eq_def]
  split
  · next digits h =>
    have hsign := hdigits '-' (h ▸ List.mem_cons_self)
    cases hsign
  · next digits h =>
    have hsign := hdigits '+' (h ▸ List.mem_cons_self)
    cases hsign
  · rw [natOfDigits_paddedDigits]

theorem yearOfText_yearText (year : Int) : yearOfText (yearText year) = year := by
  rw [yearText]
  split
  · rw [yearOfText, natOfDigits_paddedDigits]
    omega
  · split
    · rw [yearOfText, natOfDigits_paddedDigits]
      omega
    · rw [yearOfText_paddedDigits]
      omega

/-- Behind its first character, which may be a sign, a year has digits only. -/
theorem exists_yearText (year : Int) :
    ∃ c digits, yearText year = c :: digits ∧ ∀ d ∈ digits, isDigit d = true := by
  have hdigits : ∀ n, ∀ d ∈ paddedDigits 4 n, isDigit d = true :=
    fun n d => isDigit_of_mem_paddedDigits
  rw [yearText]
  split
  · exact ⟨_, _, rfl, hdigits _⟩
  · split
    · exact ⟨_, _, rfl, hdigits _⟩
    · obtain ⟨c, rest, h⟩ := List.exists_cons_of_ne_nil (paddedDigits_ne_nil 4 year.toNat)
      exact ⟨c, rest, h, fun d hd => hdigits _ d (h ▸ List.mem_cons_of_mem c hd)⟩

/-- The dash behind a year ends it, so that the year can be cut off. -/
theorem yearText_append_inj {y z : Int} {u v : List Char}
    (h : yearText y ++ '-' :: u = yearText z ++ '-' :: v) : y = z ∧ u = v := by
  obtain ⟨c, digits, hy, hdigits⟩ := exists_yearText y
  obtain ⟨d, digits', hz, hdigits'⟩ := exists_yearText z
  rw [hy, hz] at h
  obtain ⟨rfl, htail⟩ := List.cons.inj h
  obtain ⟨rfl, hrest⟩ := append_cons_inj hdigits hdigits' rfl rfl htail
  refine ⟨?_, (List.cons.inj hrest).2⟩
  rw [← yearOfText_yearText y, hy, ← hz, yearOfText_yearText]

/-- A date tells itself, and what follows it. -/
theorem text_append_inj {d e : Date} {u v : List Char}
    (h : d.text ++ 'T' :: u = e.text ++ 'T' :: v) : d = e ∧ u = v := by
  obtain ⟨year, month, day⟩ := d
  obtain ⟨year', month', day'⟩ := e
  simp only [text, List.append_assoc, List.cons_append] at h
  obtain ⟨rfl, hmonth⟩ := yearText_append_inj h
  obtain ⟨rfl, hday⟩ := paddedDigits_append_inj rfl rfl hmonth
  obtain ⟨rfl, hrest⟩ := paddedDigits_append_inj rfl rfl (List.cons.inj hday).2
  exact ⟨rfl, (List.cons.inj hrest).2⟩

end Date

namespace Instant

/-! ## The time of day -/

/-- An instant lies in its day. -/
theorem seconds_eq (t : Instant) :
    t.seconds = t.date.dayNumber * secondsPerDay + t.secondOfDay := by
  rw [date, Date.dayNumber_ofDayNumber, secondOfDay, secondsPerDay]
  omega

/-- A time of day tells itself where no digit follows it. -/
theorem timeText_append_inj {t t' : Instant} {a b : Char} {u v : List Char}
    (ha : isDigit a = false) (hb : isDigit b = false)
    (h : t.timeText ++ a :: u = t'.timeText ++ b :: v) :
    t.secondOfDay = t'.secondOfDay ∧ a :: u = b :: v := by
  simp only [timeText, List.append_assoc, List.cons_append] at h
  obtain ⟨hhours, hminute⟩ := paddedDigits_append_inj rfl rfl h
  obtain ⟨hminutes, hsecond⟩ := paddedDigits_append_inj rfl rfl (List.cons.inj hminute).2
  obtain ⟨hseconds, hrest⟩ := paddedDigits_append_inj ha hb (List.cons.inj hsecond).2
  exact ⟨by omega, hrest⟩

/-! ## The fraction of a second -/

def nanosOfText : List Char → Nat
  | '.' :: digits => natOfDigits digits * 10 ^ (9 - digits.length)
  | _ => 0

/-- A fraction of a number of digits that is wide enough. -/
theorem nanosOfText_paddedDigits {width n : Nat} (hwidth : 0 < width) (h : n < 10 ^ width) :
    nanosOfText ('.' :: paddedDigits width n) = n * 10 ^ (9 - width) := by
  rw [nanosOfText, natOfDigits_paddedDigits, length_paddedDigits hwidth h]

/-- The digits that a fraction leaves out are zeros. -/
theorem nanosOfText_fractionText (t : Instant) : nanosOfText t.fractionText = t.nanos := by
  have hlt := t.nanos_lt
  rw [fractionText]
  by_cases hzero : t.nanos = 0
  · rw [if_pos hzero, nanosOfText, hzero]
    intro digits h
    cases h
  by_cases hthree : t.nanos % 1000000 = 0
  · rw [if_neg hzero, if_pos hthree, nanosOfText_paddedDigits (by decide) (by omega)]
    omega
  by_cases hsix : t.nanos % 1000 = 0
  · rw [if_neg hzero, if_neg hthree, if_pos hsix, nanosOfText_paddedDigits (by decide) (by omega)]
    omega
  · rw [if_neg hzero, if_neg hthree, if_neg hsix, nanosOfText_paddedDigits (by decide) (by omega)]
    omega

/-- No digit follows the seconds. -/
theorem exists_fractionText (t : Instant) :
    ∃ c rest, t.fractionText ++ ['Z'] = c :: rest ∧ isDigit c = false := by
  rw [fractionText]
  repeat' split
  all_goals exact ⟨_, _, rfl, rfl⟩

/-! ## The instant -/

/-- An instant is told by its date, its second of the day and its nanoseconds. -/
theorem eq_of_parts {t t' : Instant} (hdate : t.date = t'.date)
    (hsecond : t.secondOfDay = t'.secondOfDay) (hnanos : t.nanos = t'.nanos) : t = t' := by
  have hseconds : t.seconds = t'.seconds := by rw [seconds_eq, hdate, hsecond, ← seconds_eq]
  obtain ⟨seconds, nanos, hlt⟩ := t
  obtain ⟨seconds', nanos', hlt'⟩ := t'
  cases hseconds
  cases hnanos
  rfl

/-- Instants with the same text are the same. -/
theorem rfc3339Text_injective : Function.Injective rfc3339Text := by
  intro t t' h
  obtain ⟨c, rest, hfraction, hc⟩ := t.exists_fractionText
  obtain ⟨c', rest', hfraction', hc'⟩ := t'.exists_fractionText
  simp only [rfc3339Text, List.append_assoc, List.cons_append] at h
  obtain ⟨hdate, htime⟩ := Date.text_append_inj h
  rw [hfraction, hfraction'] at htime
  obtain ⟨hsecond, hrest⟩ := timeText_append_inj hc hc' htime
  rw [← hfraction, ← hfraction'] at hrest
  have hnanos : t.nanos = t'.nanos := by
    rw [← nanosOfText_fractionText t, List.append_cancel_right hrest, nanosOfText_fractionText]
  exact eq_of_parts hdate hsecond hnanos

end Instant

end CertRenewal
