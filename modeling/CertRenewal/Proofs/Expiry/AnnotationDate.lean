import CertRenewal.Expiry.AnnotationDate
import CertRenewal.Proofs.Calendar.DayCount
import CertRenewal.Proofs.Text.Digits
import CertRenewal.Proofs.Text.Pieces
import CertRenewal.Proofs.Text.Utf8
import Mathlib.Tactic.IntervalCases

/-!
# A date in an annotation is read back

`Minute.dateText` writes a minute of the calendar as `Aug 10, 2021 13:25`, and `parse_dateText`
reads it back, as the instant that `Minute.instant` counts out day by day. Each field is read by a
lemma of its own that leaves what stands behind it.
-/

namespace CertRenewal.Expiry

open CertRenewal.Text (isBlank isDigit paddedDigits)

/-- A minute of the calendar in UTC, in a year of at most four digits. -/
structure Minute where
  year : Nat
  month : Nat
  day : Nat
  hour : Nat
  minute : Nat
  year_le : year ≤ 9999
  date_exists : (Date.mk year month day).exists? = true
  hour_lt : hour < 24
  minute_lt : minute < 60

namespace Minute

def monthName (m : Minute) : List Char := (Date.monthNames.getD (m.month - 1) "").toList

/-- The minute as `Aug 10, 2021 13:25`. -/
def dateText (m : Minute) : List Char :=
  m.monthName ++ ' ' :: paddedDigits 2 m.day ++
    ',' :: ' ' :: paddedDigits 4 m.year ++ ' ' :: paddedDigits 2 m.hour ++
    ':' :: paddedDigits 2 m.minute

/-- The start of the minute, with the days since the first day of 1970 counted by the calendar. -/
def instant (m : Minute) : Instant :=
  .ofSeconds (((Date.daysBefore m.year m.month m.day : Int) - Date.daysBefore 1970 1 1) * 86400 +
    m.hour * 3600 + m.minute * 60)

theorem instant_eq_ofCivil (m : Minute) :
    m.instant = .ofCivil ⟨m.year, m.month, m.day⟩ m.hour m.minute 0 := by
  rw [instant, Instant.ofCivil, Date.dayNumber_eq_daysBefore m.date_exists, Nat.cast_zero,
    Int.add_zero, Instant.secondsPerDay]

theorem month_range (m : Minute) : 1 ≤ m.month ∧ m.month ≤ 12 :=
  (Date.exists?_iff.mp m.date_exists).1

theorem day_range (m : Minute) : 1 ≤ m.day ∧ m.day ≤ 31 := by
  obtain ⟨-, hday, hlast⟩ := Date.exists?_iff.mp m.date_exists
  exact ⟨hday, Nat.le_trans hlast (Date.daysInMonth_le _ _)⟩

theorem monthName_letters (m : Minute) :
    m.monthName ≠ [] ∧ ∀ c ∈ m.monthName, isBlank c = false ∧ c ≠ '}' := by
  obtain ⟨hmonth, hmonth'⟩ := m.month_range
  have hletters : m.monthName ≠ [] ∧
      m.monthName.all (fun c => !isBlank c && c != '}') = true := by
    rw [monthName]
    interval_cases m.month <;> decide
  refine ⟨hletters.1, fun c hc => ?_⟩
  simpa using List.all_eq_true.mp hletters.2 c hc

/-- A date does not begin with a blank, so that none of it is trimmed. -/
theorem head_dateText (m : Minute) : ∃ c cs, m.dateText = c :: cs ∧ isBlank c = false := by
  obtain ⟨hne, hletters⟩ := m.monthName_letters
  obtain ⟨c, cs, hname⟩ := List.exists_cons_of_ne_nil hne
  rw [hname] at hletters
  exact ⟨c, _, by rw [dateText, hname]; rfl, (hletters c List.mem_cons_self).1⟩

/-- Nor does it end with one. -/
theorem last_dateText (m : Minute) : ∀ c ∈ m.dateText.getLast?, isBlank c = false := by
  intro c hc
  have hlast : m.dateText.getLast? = (paddedDigits 2 m.minute).getLast? := by
    rw [dateText, List.append_cons,
      List.getLast?_append_of_ne_nil _ (Text.paddedDigits_ne_nil 2 m.minute)]
  rw [hlast] at hc
  exact Text.isBlank_of_isDigit (Text.isDigit_of_mem_paddedDigits (List.mem_of_getLast? hc))

/-- A date has no brace that could be taken for the one behind it. -/
theorem brace_not_mem_dateText (m : Minute) : '}' ∉ m.dateText := by
  have hdigits : ∀ width n, '}' ∉ paddedDigits width n := fun width n h =>
    absurd (Text.isDigit_of_mem_paddedDigits h) (by decide)
  have hname : '}' ∉ m.monthName := fun h => (m.monthName_letters.2 _ h).2 rfl
  simp [dateText, hdigits, hname]

end Minute

namespace AnnotationDate

/-! ## Numbers -/

/-- Digits are read up to the limit of their number, where the value stays in range. -/
theorem digits_append {ds : List Char} (hds : ∀ c ∈ ds, isDigit c = true) (rest : List Char)
    {value : Nat} (hvalue : (value + 1) * 10 ^ ds.length ≤ 9223372036854775807) :
    digits (some ds.length) value (ds ++ rest) =
      .ok (ds.foldl (fun n c => n * 10 + (Text.digit? c).getD 0) value, rest) := by
  induction ds generalizing value with
  | nil => cases rest <;> simp [digits]
  | cons c ds ih =>
    obtain ⟨hc, hds⟩ := List.forall_mem_cons.mp hds
    obtain ⟨d, hd⟩ := Option.isSome_iff_exists.mp hc
    have hlt : d < 10 := by
      have := Text.digit?_eq_some_iff.mp hd
      omega
    have hnext : (value * 10 + d + 1) * 10 ^ ds.length ≤ 9223372036854775807 := by
      refine Nat.le_trans ?_ hvalue
      rw [List.length_cons, Nat.pow_succ', ← Nat.mul_assoc]
      exact Nat.mul_le_mul_right _ (by omega)
    have hrange : value * 10 + d + 1 ≤ (value * 10 + d + 1) * 10 ^ ds.length :=
      Nat.le_mul_of_pos_right _ (Nat.pow_pos (by decide))
    rw [List.cons_append, digits, if_neg (by simp), hd]
    show (if 9223372036854775807 < value * 10 + d then .error .outOfRange
      else digits (some ds.length) (value * 10 + d) (ds ++ rest)) = _
    rw [if_neg (by omega), ih hds hnext, List.foldl_cons, hd, Option.getD_some]

/-- A number that fills a width is read, and what stands behind it is left. -/
theorem number_paddedDigits {width n : Nat} (hwidth : 0 < width)
    (hrange : 10 ^ width ≤ 9223372036854775807) (hn : n < 10 ^ width) (rest : List Char) :
    number (some width) (paddedDigits width n ++ rest) = .ok (n, rest) := by
  have hlength := Text.length_paddedDigits hwidth hn
  have hdigits : digits (some (paddedDigits width n).length) 0 (paddedDigits width n ++ rest) =
      .ok (Text.natOfDigits (paddedDigits width n), rest) :=
    digits_append (fun c => Text.isDigit_of_mem_paddedDigits) rest
      (by rwa [hlength, Nat.zero_add, Nat.one_mul])
  rw [hlength, Text.natOfDigits_paddedDigits] at hdigits
  obtain ⟨c, cs, d, hcons, hd⟩ := Text.paddedDigits_eq_cons width n
  rw [hcons, List.cons_append] at hdigits ⊢
  rw [number, hd]
  exact hdigits

/-- Blanks before digits are passed over. -/
theorem trimStart_paddedDigits {blanks : List Char} (hblanks : ∀ c ∈ blanks, isBlank c = true)
    (width n : Nat) (rest : List Char) :
    Text.trimStart (blanks ++ (paddedDigits width n ++ rest)) = paddedDigits width n ++ rest := by
  obtain ⟨c, cs, d, hcons, hd⟩ := Text.paddedDigits_eq_cons width n
  refine Text.dropWhile_append_of_head hblanks fun c' hc' => Text.isBlank_of_isDigit ?_
  rw [hcons, List.cons_append, List.head?_cons, Option.mem_some_iff] at hc'
  rw [← hc', isDigit, hd, Option.isSome_some]

/-! ## Fields -/

/-- A field of two digits is read back, with blanks in front of it. -/
theorem field_paddedDigits {least greatest n : Nat} (hleast : least ≤ n) (hgreatest : n ≤ greatest)
    (hn : n < 100) {blanks : List Char} (hblanks : ∀ c ∈ blanks, isBlank c = true)
    (rest : List Char) :
    field least greatest (blanks ++ (paddedDigits 2 n ++ rest)) = .ok (n, rest) := by
  rw [field, trimStart_paddedDigits hblanks, number_paddedDigits (by decide) (by decide) hn]
  exact if_pos ⟨hleast, hgreatest⟩

/-- So is a year of four digits. -/
theorem year_paddedDigits {n : Nat} (hn : n ≤ 9999) {blanks : List Char}
    (hblanks : ∀ c ∈ blanks, isBlank c = true) (rest : List Char) :
    year (blanks ++ (paddedDigits 4 n ++ rest)) = .ok ((n : Int), rest) := by
  have hnumber : number (some 4) (paddedDigits 4 n ++ rest) = .ok (n, rest) :=
    number_paddedDigits (by decide) (by decide) (by omega) rest
  obtain ⟨c, cs, d, hcons, hd⟩ := Text.paddedDigits_eq_cons 4 n
  -- The first character is a digit, so that there is no sign.
  have hminus : c ≠ '-' := fun h => by simp [h, Text.digit?] at hd
  have hplus : c ≠ '+' := fun h => by simp [h, Text.digit?] at hd
  rw [year, trimStart_paddedDigits hblanks]
  rw [hcons, List.cons_append] at hnumber ⊢
  simp only [bind, Except.bind]
  split
  · next heq => exact absurd (List.head_eq_of_cons_eq heq) hminus
  · next heq => exact absurd (List.head_eq_of_cons_eq heq) hplus
  · have hrange : -2147483648 ≤ (n : Int) ∧ (n : Int) ≤ 2147483647 := by omega
    rw [hnumber]
    exact if_pos hrange

/-- A month is read when its three letters are those of one. -/
theorem month_append {letters : List Char} {n : Nat} (hlength : letters.length = 3)
    (hmonth : months.lookup (letters.map Char.toLower) = some n) (rest : List Char) :
    month (letters ++ rest) = .ok (n, rest) := by
  have hsize := Text.Utf8.length_le_size (letters ++ rest)
  rw [List.length_append] at hsize
  rw [month, if_neg (by omega), List.take_left' hlength, List.drop_left' hlength, hmonth]

/-- The names of the months are told apart by their letters. -/
theorem month_monthNames {n : Nat} (hleast : 1 ≤ n) (hgreatest : n ≤ 12) (rest : List Char) :
    month ((Date.monthNames.getD (n - 1) "").toList ++ rest) = .ok (n, rest) := by
  interval_cases n <;> exact month_append (by decide) (by decide) rest

theorem literal_cons (c : Char) (rest : List Char) : literal c (c :: rest) = .ok rest :=
  if_pos rfl

/-! ## Dates -/

/-- A date is read back as the instant that it stands for. -/
theorem parse_dateText (m : Minute) : parse m.dateText = .ok m.instant := by
  obtain ⟨hmonth, hmonth'⟩ := m.month_range
  obtain ⟨hday, hday'⟩ := m.day_range
  have hyear := m.year_le
  have hhour := m.hour_lt
  have hminute := m.minute_lt
  have hblank : ∀ c ∈ [' '], isBlank c = true := List.forall_mem_singleton.mpr rfl
  have hnone : ∀ c ∈ ([] : List Char), isBlank c = true := List.forall_mem_nil _
  have hdate : isSupportedYear m.year ∧ (Date.mk m.year m.month m.day).exists? = true := by
    refine ⟨?_, m.date_exists⟩
    simp only [isSupportedYear, Bool.and_eq_true, decide_eq_true_eq]
    omega
  have hdayField : ∀ rest, field 1 31 (' ' :: (paddedDigits 2 m.day ++ rest)) = .ok (m.day, rest) :=
    fun rest => field_paddedDigits hday hday' (by omega) hblank rest
  have hyearField : ∀ rest, year (' ' :: (paddedDigits 4 m.year ++ rest)) = .ok (↑m.year, rest) :=
    fun rest => year_paddedDigits hyear hblank rest
  have hhourField : ∀ rest, field 0 23 (' ' :: (paddedDigits 2 m.hour ++ rest)) =
      .ok (m.hour, rest) :=
    fun rest => field_paddedDigits (Nat.zero_le _) (by omega) (by omega) hblank rest
  have hminuteField : field 0 59 (paddedDigits 2 m.minute) = .ok (m.minute, []) := by
    simpa using field_paddedDigits (Nat.zero_le _) (show m.minute ≤ 59 by omega) (by omega) hnone []
  simp only [Minute.dateText, Minute.monthName, List.append_assoc, List.cons_append, parse,
    month_monthNames hmonth hmonth', hdayField, hyearField, hhourField, hminuteField, literal_cons,
    bind, Except.bind, if_pos hdate]
  rw [if_neg (not_not_intro rfl), m.instant_eq_ofCivil]
  rfl

end AnnotationDate

end CertRenewal.Expiry
