import CertRenewal.Calendar
import CertRenewal.Text.Blank

/-!
# The expiry threshold

A certificate is reported when it expires within a number of days. The remaining time is counted
in whole days, which drops the fraction towards zero from both sides; a certificate that has
already expired is caught by a second test.
-/

namespace CertRenewal.Expiry

/-- A number of days from now within which an expiry is reported. -/
structure Threshold where
  days : Int
  deriving DecidableEq, Repr

namespace Threshold

/-- Reads a whole number of days; blank characters around it do not count. -/
def parse (duration : String) : Except Text.Integer.Error Threshold :=
  (Text.Integer.parse64 (Text.trim duration.toList)).map Threshold.mk

/-- Whole seconds of a span of nanoseconds, dropping the fraction towards zero. -/
def wholeSeconds (nanos : Int) : Int := nanos.tdiv 1000000000

/-- Whole days of a span of nanoseconds, dropping the fraction towards zero. -/
def wholeDays (nanos : Int) : Int := (wholeSeconds nanos).tdiv Instant.secondsPerDay

/-- Whether a certificate that ends at `notAfter` is to be reported at `now`: fewer whole days
than the threshold remain, or it has expired. -/
def expiresSoon (threshold : Threshold) (notAfter now : Instant) : Bool :=
  wholeDays (now.nanosUntil notAfter) < threshold.days || notAfter.isBefore now

end Threshold

end CertRenewal.Expiry
