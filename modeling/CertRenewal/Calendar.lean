import CertRenewal.Text.Integer

/-!
# Civil dates and instants

Dates are those of the proleptic Gregorian calendar and are counted in days from 1970-01-01.
An instant is a number of seconds since the start of that day in UTC and a number of nanoseconds
below one second. `Date.ofDayNumber` is the inverse of `Date.dayNumber` on the days of the
calendar.
-/

namespace CertRenewal

/-- A year, a month and a day of the month, not checked to exist. -/
structure Date where
  year : Int
  month : Nat
  day : Nat
  deriving DecidableEq, Repr

namespace Date

/-- Leap years are the multiples of four, save the centuries that 400 does not divide. -/
def isLeapYear (year : Int) : Bool :=
  year % 4 == 0 && (year % 100 != 0 || year % 400 == 0)

def daysInMonth (year : Int) (month : Nat) : Nat :=
  match month with
  | 2 => if isLeapYear year then 29 else 28
  | 4 | 6 | 9 | 11 => 30
  | _ => 31

def exists? (d : Date) : Bool :=
  1 ≤ d.month && d.month ≤ 12 && 1 ≤ d.day && d.day ≤ daysInMonth d.year d.month

/-- Days from 1970-01-01 to the date. Years are counted from March, so that the leap day comes
last, and in eras of 400 years, which all have 146097 days. -/
def dayNumber (d : Date) : Int :=
  let year := if d.month ≤ 2 then d.year - 1 else d.year
  let era := year / 400
  let yearOfEra := year % 400
  let month : Int := if d.month ≤ 2 then d.month + 9 else (d.month : Int) - 3
  let dayOfYear := (153 * month + 2) / 5 + d.day - 1
  let dayOfEra := yearOfEra * 365 + yearOfEra / 4 - yearOfEra / 100 + dayOfYear
  era * 146097 + dayOfEra - 719468

def ofDayNumber (n : Int) : Date :=
  let shifted := n + 719468
  let era := shifted / 146097
  let dayOfEra := shifted % 146097
  let yearOfEra := (dayOfEra - dayOfEra / 1460 + dayOfEra / 36524 - dayOfEra / 146096) / 365
  let dayOfYear := dayOfEra - (365 * yearOfEra + yearOfEra / 4 - yearOfEra / 100)
  let marchMonth := (5 * dayOfYear + 2) / 153
  let day := dayOfYear - (153 * marchMonth + 2) / 5 + 1
  let month := if marchMonth < 10 then marchMonth + 3 else marchMonth - 9
  let year := yearOfEra + era * 400
  ⟨if month ≤ 2 then year + 1 else year, month.toNat, day.toNat⟩

def monthNames : List String :=
  ["Jan", "Feb", "Mar", "Apr", "May", "Jun", "Jul", "Aug", "Sep", "Oct", "Nov", "Dec"]

/-- A year is written with at least four digits, and with its sign outside the years 0 to 9999. -/
def yearText (year : Int) : List Char :=
  if year < 0 then '-' :: Text.paddedDigits 4 year.natAbs
  else if 9999 < year then '+' :: Text.paddedDigits 4 year.toNat
  else Text.paddedDigits 4 year.toNat

/-- The date as `YYYY-MM-DD`. -/
def text (d : Date) : List Char :=
  yearText d.year ++ '-' :: Text.paddedDigits 2 d.month ++ '-' :: Text.paddedDigits 2 d.day

end Date

/-- A point in time: seconds since 1970-01-01T00:00:00Z and the nanoseconds that follow them. -/
structure Instant where
  seconds : Int
  nanos : Nat
  nanos_lt : nanos < 1000000000 := by decide
  deriving DecidableEq, Repr

namespace Instant

def ofSeconds (seconds : Int) : Instant := ⟨seconds, 0, by decide⟩

def ofNanos (nanos : Int) : Instant :=
  ⟨nanos / 1000000000, (nanos % 1000000000).toNat, by omega⟩

/-- Whether a number of seconds lies in the years that the calendar covers, which are the years
-262143 to 262142. -/
def isSupported (seconds : Int) : Bool :=
  -8334601228800 ≤ seconds && seconds ≤ 8210266876799

def secondsPerDay : Int := 86400

def ofCivil (date : Date) (hour minute second : Nat) : Instant :=
  ofSeconds (date.dayNumber * secondsPerDay + hour * 3600 + minute * 60 + second)

def date (t : Instant) : Date := Date.ofDayNumber (t.seconds / secondsPerDay)

def secondOfDay (t : Instant) : Nat := (t.seconds % secondsPerDay).toNat

/-- The time of day as `hh:mm:ss`. -/
def timeText (t : Instant) : List Char :=
  let s := t.secondOfDay
  Text.paddedDigits 2 (s / 3600) ++ ':' :: Text.paddedDigits 2 (s / 60 % 60) ++
    ':' :: Text.paddedDigits 2 (s % 60)

/-- The fraction of a second: nothing when it is zero, otherwise a point and the fewest groups of
three digits that hold it. -/
def fractionText (t : Instant) : List Char :=
  if t.nanos = 0 then []
  else if t.nanos % 1000000 = 0 then '.' :: Text.paddedDigits 3 (t.nanos / 1000000)
  else if t.nanos % 1000 = 0 then '.' :: Text.paddedDigits 6 (t.nanos / 1000)
  else '.' :: Text.paddedDigits 9 t.nanos

/-- The instant as `2021-08-10 13:25:00 UTC`, for people. -/
def displayText (t : Instant) : List Char :=
  t.date.text ++ ' ' :: t.timeText ++ t.fractionText ++ " UTC".toList

/-- The instant as `2021-08-10T13:25:00Z`, for programs. -/
def rfc3339Text (t : Instant) : List Char :=
  t.date.text ++ 'T' :: t.timeText ++ t.fractionText ++ ['Z']

def nanosUntil (t later : Instant) : Int :=
  (later.seconds - t.seconds) * 1000000000 + ((later.nanos : Int) - t.nanos)

/-- Whether an instant lies strictly before another. -/
def isBefore (t u : Instant) : Bool :=
  t.seconds < u.seconds || (t.seconds == u.seconds && t.nanos < u.nanos)

end Instant

end CertRenewal
