import CertRenewal.Expiry.Threshold
import Mathlib.Tactic.Ring

/-!
# Thresholds and time

An instant is a number of nanoseconds, `Instant.toNanos`, and both tests of a threshold are about
the difference of two such numbers. Each of them is kept when the threshold grows, and when time
passes.
-/

namespace CertRenewal

namespace Instant

def toNanos (t : Instant) : Int := t.seconds * 1000000000 + t.nanos

theorem nanosUntil_eq (t later : Instant) : t.nanosUntil later = later.toNanos - t.toNanos := by
  rw [nanosUntil, toNanos, toNanos]
  ring

theorem isBefore_iff {t u : Instant} : t.isBefore u = true ↔ t.toNanos < u.toNanos := by
  have ht := t.nanos_lt
  have hu := u.nanos_lt
  simp only [isBefore, toNanos, Bool.or_eq_true, Bool.and_eq_true, decide_eq_true_eq, beq_iff_eq]
  omega

end Instant

namespace Expiry.Threshold

/-- A longer span has no fewer whole days, also where it is negative. -/
theorem wholeDays_mono {nanos nanos' : Int} (h : nanos ≤ nanos') :
    wholeDays nanos ≤ wholeDays nanos' :=
  Int.tdiv_le_tdiv (by decide) (Int.tdiv_le_tdiv (by decide) h)

/-- What expires soon also does so by a greater threshold and at a later time. -/
theorem expiresSoon_mono {threshold threshold' : Threshold} {now now' notAfter : Instant}
    (hdays : threshold.days ≤ threshold'.days) (hnow : now.toNanos ≤ now'.toNanos)
    (h : threshold.expiresSoon notAfter now = true) :
    threshold'.expiresSoon notAfter now' = true := by
  have hremaining : wholeDays (now'.nanosUntil notAfter) ≤ wholeDays (now.nanosUntil notAfter) := by
    rw [Instant.nanosUntil_eq, Instant.nanosUntil_eq]
    exact wholeDays_mono (by omega)
  rw [expiresSoon, Bool.or_eq_true, decide_eq_true_eq, Instant.isBefore_iff] at h ⊢
  rcases h with hfew | hexpired
  · left
    omega
  · right
    omega

end Expiry.Threshold

end CertRenewal
