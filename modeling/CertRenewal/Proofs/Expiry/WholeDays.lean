import CertRenewal.Proofs.Expiry.Threshold

/-!
# Whole days are exact

A threshold drops fractions twice, below a second and below a day, and both times towards zero: in
whole days the last day before an expiry and the first one behind it are the same, no day at all.
`expiresSoon_iff` says that nothing is lost by it. What decides is the exact number of nanoseconds,
since the days of a threshold are themselves whole, and the second test tells the two sides of the
expiry apart.

The arithmetic is that of machine words. A `Span` holds seconds and nanoseconds the way a clock
does, and each of its steps checks that the number fits; `expiresSoon?_eq` says that between two
instants of the calendar none of them overflows.
-/

namespace CertRenewal

/-! ## Numbers of 64 bits -/

/-- A signed word of 64 bits holds the number. -/
def FitsWord (n : Int) : Prop := -9223372036854775808 ≤ n ∧ n ≤ 9223372036854775807

instance (n : Int) : Decidable (FitsWord n) := inferInstanceAs (Decidable (_ ∧ _))

/-- The number in a signed word of 64 bits; nothing when it overflows. -/
def word? (n : Int) : Option Int := if FitsWord n then some n else none

theorem word?_of_fits {n : Int} (h : FitsWord n) : word? n = some n := if_pos h

/-! ## Spans of time -/

/-- A span of time, as whole seconds and the nanoseconds that follow them. Its milliseconds fit a
word. -/
structure Span where
  seconds : Int
  nanos : Nat
  nanos_lt : nanos < 1000000000
  fits : FitsWord (seconds * 1000 + nanos / 1000000)

namespace Span

def ofParts? (seconds : Int) (nanos : Nat) : Option Span :=
  if h : nanos < 1000000000 ∧ FitsWord (seconds * 1000 + nanos / 1000000) then
    some ⟨seconds, nanos, h.1, h.2⟩
  else none

def toNanos (s : Span) : Int := s.seconds * 1000000000 + s.nanos

/-- The whole seconds of a span. One that is negative is counted from the second above it. -/
def wholeSeconds? (s : Span) : Option Int :=
  if s.seconds < 0 ∧ 0 < s.nanos then word? (s.seconds + 1) else word? s.seconds

def wholeDays? (s : Span) : Option Int := do
  let seconds ← s.wholeSeconds?
  word? (seconds.tdiv Instant.secondsPerDay)

end Span

/-- The span from one instant to another. A second is borrowed where the nanoseconds of the second
instant are the fewer. -/
def Instant.spanUntil? (t later : Instant) : Option Span := do
  let seconds ← word? (later.seconds - t.seconds)
  if t.nanos ≤ later.nanos then Span.ofParts? seconds (later.nanos - t.nanos)
  else
    let borrowed ← word? (seconds - 1)
    Span.ofParts? borrowed (later.nanos + 1000000000 - t.nanos)

/-- The test of a threshold in words of 64 bits; nothing when a step overflows. -/
def Expiry.Threshold.expiresSoon? (threshold : Expiry.Threshold) (notAfter now : Instant) :
    Option Bool := do
  let days ← word? threshold.days
  let span ← now.spanUntil? notAfter
  let remaining ← span.wholeDays?
  return remaining < days || notAfter.isBefore now

/-! ## Dropping fractions -/

/-- Dropping a fraction towards zero, from either side. -/
theorem tdiv_cases (n d : Int) :
    (0 ≤ n ∧ n.tdiv d = n / d) ∨ (n < 0 ∧ n.tdiv d = -(-n / d)) := by
  by_cases hn : 0 ≤ n
  · exact .inl ⟨hn, Int.tdiv_eq_ediv_of_nonneg hn⟩
  · right
    have hneg : (-n).tdiv d = -n / d := Int.tdiv_eq_ediv_of_nonneg (by omega)
    rw [Int.neg_tdiv] at hneg
    omega

/-- Below a whole number that is positive the fraction does not count. -/
theorem tdiv_lt_iff {n d k : Int} (hd : 0 < d) (hk : 0 < k) : n.tdiv d < k ↔ n < k * d := by
  rcases tdiv_cases n d with ⟨hn, hdiv⟩ | ⟨hn, hdiv⟩
  · rw [hdiv]
    exact Int.ediv_lt_iff_lt_mul hd
  · have hquotient : 0 ≤ -n / d := Int.ediv_nonneg (by omega) (by omega)
    have hproduct : 0 < k * d := Int.mul_pos hk hd
    constructor <;> intro <;> omega

/-- What is negative without its fraction is so with it. -/
theorem neg_of_tdiv_neg {n d : Int} (hd : 0 < d) (h : n.tdiv d < 0) : n < 0 := by
  by_contra hn
  have hquotient : 0 ≤ n.tdiv d := Int.tdiv_nonneg (by omega) (by omega)
  omega

namespace Expiry.Threshold

/-- Whole days below a positive number of days, in nanoseconds. -/
theorem wholeDays_lt_iff {nanos days : Int} (hdays : 0 < days) :
    wholeDays nanos < days ↔ nanos < days * 86400 * 1000000000 := by
  unfold wholeDays wholeSeconds Instant.secondsPerDay
  rw [tdiv_lt_iff (by decide) hdays, tdiv_lt_iff (by decide) (by omega)]

/-- The fraction that is dropped cannot make a span negative. -/
theorem neg_of_wholeDays_neg {nanos : Int} (h : wholeDays nanos < 0) : nanos < 0 :=
  neg_of_tdiv_neg (by decide) (neg_of_tdiv_neg (by decide) h)

/-- A certificate expires soon when exactly less than the days of the threshold remain; with no days
or fewer it must have expired. -/
theorem expiresSoon_iff (threshold : Threshold) (notAfter now : Instant) :
    threshold.expiresSoon notAfter now = true ↔
      notAfter.toNanos - now.toNanos < max threshold.days 0 * 86400 * 1000000000 := by
  rw [expiresSoon, Bool.or_eq_true, decide_eq_true_eq, Instant.isBefore_iff, Instant.nanosUntil_eq]
  by_cases hdays : 0 < threshold.days
  · rw [wholeDays_lt_iff hdays]
    omega
  · have hmax : max threshold.days 0 = 0 := by omega
    rw [hmax]
    constructor
    · rintro (hfew | hexpired)
      · have hneg := neg_of_wholeDays_neg (Int.lt_of_lt_of_le hfew (Int.not_lt.mp hdays))
        omega
      · omega
    · intro hexpired
      right
      omega

end Expiry.Threshold

/-! ## Nothing overflows -/

theorem Instant.isSupported_iff {seconds : Int} :
    isSupported seconds = true ↔ -8334601228800 ≤ seconds ∧ seconds ≤ 8210266876799 := by
  simp [isSupported]

namespace Span

/-- Spans between instants of the calendar fit, with room to spare. -/
theorem ofParts?_of_small {seconds : Int} {nanos : Nat} (hnanos : nanos < 1000000000)
    (hseconds : seconds.natAbs ≤ 16544868105600) :
    ∃ s : Span, ofParts? seconds nanos = some s ∧ s.seconds = seconds ∧ s.nanos = nanos := by
  have hfits : FitsWord (seconds * 1000 + nanos / 1000000) := by
    unfold FitsWord
    omega
  exact ⟨⟨seconds, nanos, hnanos, hfits⟩, dif_pos ⟨hnanos, hfits⟩, rfl, rfl⟩

/-- The second that is added to a negative span is the one that its nanoseconds have begun. -/
theorem wholeSeconds?_eq {s : Span} (h : s.seconds.natAbs ≤ 16544868105600) :
    s.wholeSeconds? = some (Expiry.Threshold.wholeSeconds s.toNanos) := by
  have hlt := s.nanos_lt
  have hcases := tdiv_cases s.toNanos 1000000000
  have hnanos : s.toNanos = s.seconds * 1000000000 + s.nanos := rfl
  unfold wholeSeconds? Expiry.Threshold.wholeSeconds
  split
  · rw [word?_of_fits (by unfold FitsWord; omega)]
    congr 1
    omega
  · rw [word?_of_fits (by unfold FitsWord; omega)]
    congr 1
    omega

/-- The whole days in words are those of the exact span. -/
theorem wholeDays?_eq {s : Span} (h : s.seconds.natAbs ≤ 16544868105600) :
    s.wholeDays? = some (Expiry.Threshold.wholeDays s.toNanos) := by
  have hseconds := wholeSeconds?_eq h
  have hsize : (Expiry.Threshold.wholeSeconds s.toNanos).natAbs ≤ 16544868105601 := by
    have hlt := s.nanos_lt
    have hcases := tdiv_cases s.toNanos 1000000000
    have hnanos : s.toNanos = s.seconds * 1000000000 + s.nanos := rfl
    unfold Expiry.Threshold.wholeSeconds
    omega
  have hfits : FitsWord (Expiry.Threshold.wholeDays s.toNanos) := by
    have hcases := tdiv_cases (Expiry.Threshold.wholeSeconds s.toNanos) 86400
    unfold Expiry.Threshold.wholeDays FitsWord Instant.secondsPerDay
    omega
  simp only [wholeDays?, hseconds, Option.bind_eq_bind, Option.bind_some]
  exact word?_of_fits hfits

end Span

/-- Between two instants of the calendar there is a span, and it is exact. -/
theorem Instant.exists_spanUntil? {t later : Instant} (ht : isSupported t.seconds = true)
    (hlater : isSupported later.seconds = true) :
    ∃ s, t.spanUntil? later = some s ∧ s.toNanos = later.toNanos - t.toNanos ∧
      s.seconds.natAbs ≤ 16544868105600 := by
  rw [isSupported_iff] at ht hlater
  have hnanos := t.nanos_lt
  have hnanos' := later.nanos_lt
  have hword : word? (later.seconds - t.seconds) = some (later.seconds - t.seconds) :=
    word?_of_fits (by unfold FitsWord; omega)
  simp only [spanUntil?, hword, Option.bind_eq_bind, Option.bind_some]
  by_cases hborrow : t.nanos ≤ later.nanos
  · obtain ⟨s, hs, hseconds, hfraction⟩ := Span.ofParts?_of_small
      (show later.nanos - t.nanos < 1000000000 by omega)
      (show (later.seconds - t.seconds).natAbs ≤ 16544868105600 by omega)
    refine ⟨s, by rw [if_pos hborrow, hs], ?_, by omega⟩
    unfold Span.toNanos toNanos
    omega
  · have hword' : word? (later.seconds - t.seconds - 1) = some (later.seconds - t.seconds - 1) :=
      word?_of_fits (by unfold FitsWord; omega)
    obtain ⟨s, hs, hseconds, hfraction⟩ := Span.ofParts?_of_small
      (show later.nanos + 1000000000 - t.nanos < 1000000000 by omega)
      (show (later.seconds - t.seconds - 1).natAbs ≤ 16544868105600 by omega)
    refine ⟨s, by rw [if_neg hborrow, hword', Option.bind_some, hs], ?_, by omega⟩
    unfold Span.toNanos toNanos
    omega

namespace Expiry.Threshold

/-- In words of 64 bits the test has a result, and the same one. -/
theorem expiresSoon?_eq {threshold : Threshold} {notAfter now : Instant}
    (hdays : FitsWord threshold.days) (hend : Instant.isSupported notAfter.seconds = true)
    (hnow : Instant.isSupported now.seconds = true) :
    threshold.expiresSoon? notAfter now = some (threshold.expiresSoon notAfter now) := by
  obtain ⟨s, hs, hnanos, hsize⟩ := Instant.exists_spanUntil? hnow hend
  simp only [expiresSoon?, word?_of_fits hdays, hs, Span.wholeDays?_eq hsize, hnanos,
    Option.bind_eq_bind, Option.bind_some]
  rw [expiresSoon, Instant.nanosUntil_eq]
  rfl

/-- The comparison in whole days is exact. For a threshold of 64 bits and two instants of the
calendar no step overflows, and a certificate expires soon when fewer nanoseconds remain than there
are in the days of the threshold, or in no days where these are negative. So one that has expired
does whatever the threshold, and one that expires now when the threshold is positive. -/
theorem expiresSoon_exact (threshold : Threshold) (notAfter now : Instant)
    (hdays : FitsWord threshold.days) (hend : Instant.isSupported notAfter.seconds = true)
    (hnow : Instant.isSupported now.seconds = true) :
    threshold.expiresSoon? notAfter now = some (threshold.expiresSoon notAfter now) ∧
      (threshold.expiresSoon notAfter now = true ↔
        notAfter.toNanos - now.toNanos < max threshold.days 0 * 86400 * 1000000000) ∧
      (notAfter.toNanos < now.toNanos → threshold.expiresSoon notAfter now = true) ∧
      (notAfter.toNanos = now.toNanos →
        (threshold.expiresSoon notAfter now = true ↔ 0 < threshold.days)) := by
  have hiff := expiresSoon_iff threshold notAfter now
  refine ⟨expiresSoon?_eq hdays hend hnow, hiff, ?_, ?_⟩
  · intro hexpired
    rw [hiff]
    omega
  · intro hsame
    rw [hiff]
    omega

/-- The widest span of the calendar, by the least threshold there is. -/
theorem expiresSoon_exact_of_extremes :
    let threshold : Threshold := ⟨-9223372036854775808⟩
    let first : Instant := ⟨-8334601228800, 1, by decide⟩
    let last : Instant := ⟨8210266876799, 999999999, by decide⟩
    FitsWord threshold.days ∧ Instant.isSupported first.seconds = true ∧
      Instant.isSupported last.seconds = true ∧
      threshold.expiresSoon? first last = some (threshold.expiresSoon first last) ∧
      (threshold.expiresSoon first last = true ↔
        first.toNanos - last.toNanos < max threshold.days 0 * 86400 * 1000000000) ∧
      (first.toNanos < last.toNanos → threshold.expiresSoon first last = true) ∧
      (first.toNanos = last.toNanos →
        (threshold.expiresSoon first last = true ↔ 0 < threshold.days)) :=
  ⟨by decide, by decide, by decide,
    expiresSoon_exact _ _ _ (by decide) (by decide) (by decide)⟩

end Expiry.Threshold

end CertRenewal
