import CertRenewal.Calendar
import CertRenewal.Certificate.Der

/-!
# Times in certificates

A certificate writes a time in one of two forms, both made of two-digit fields:

* UTC time, `YYMMDDhhmm[ss]` with a zone, where the years from 50 on are those of the twentieth
  century;
* generalized time, `YYYYMMDDhhmm[ss]` with an optional fraction of up to three digits, in UTC.

The fraction is dropped, which rounds towards the past.
-/

namespace CertRenewal.Certificate.Time

def digit? (b : UInt8) : Option Nat :=
  if 48 ≤ b ∧ b ≤ 57 then some (b.toNat - 48) else none

def twoDigits : List UInt8 → Option (Nat × List UInt8)
  | a :: b :: rest => do return ((← digit? a) * 10 + (← digit? b), rest)
  | _ => none

structure Fields where
  date : Date
  hour : Nat
  minute : Nat
  second : Nat
  deriving DecidableEq, Repr

def Fields.exists? (f : Fields) : Bool :=
  f.date.exists? && f.hour ≤ 23 && f.minute ≤ 59 && f.second ≤ 59

def Fields.seconds (f : Fields) : Int :=
  (Instant.ofCivil f.date f.hour f.minute f.second).seconds

/-- Reads the fields after the year. The seconds may be missing, but where two bytes follow the
minutes they must be the seconds. -/
def fieldsAfterYear (year : Int) (bytes : List UInt8) : Option (Fields × List UInt8) := do
  let (month, bytes) ← twoDigits bytes
  let (day, bytes) ← twoDigits bytes
  let (hour, bytes) ← twoDigits bytes
  let (minute, bytes) ← twoDigits bytes
  let (second, bytes) ← if bytes.length < 2 then some (0, bytes) else twoDigits bytes
  let fields : Fields := ⟨⟨year, month, day⟩, hour, minute, second⟩
  if fields.exists? then some (fields, bytes) else none

/-- Seconds by which a zone lies ahead of UTC. Hours go up to 25; the sign is that of the hours, so
that `-0030` lies ahead. -/
def zone : List UInt8 → Option Int
  | [90] => some 0
  | sign :: rest => do
    let (hours, rest) ← twoDigits rest
    let (minutes, rest) ← twoDigits rest
    if rest ≠ [] ∨ 25 < hours ∨ 59 < minutes then none
    else if sign = 43 ∨ (sign = 45 ∧ hours = 0) then some (hours * 3600 + minutes * 60)
    else if sign = 45 then some (-(hours * 3600 + minutes * 60))
    else none
  | [] => none

/-- The year of the two digits of a UTC time. -/
def fullYear (yy : Nat) : Int := if yy < 50 then 2000 + yy else 1900 + yy

def utc (bytes : List UInt8) : Option Int := do
  let (yy, bytes) ← twoDigits bytes
  let (fields, bytes) ← fieldsAfterYear (fullYear yy) bytes
  return fields.seconds - (← zone bytes)

/-- Passes over a fraction: a point and up to three digits. -/
def dropFraction : List UInt8 → List UInt8
  | 46 :: rest =>
    let digits := rest.takeWhile fun b => (digit? b).isSome
    if digits.length ≤ 3 then rest.drop digits.length else 46 :: rest
  | bytes => bytes

def generalized (bytes : List UInt8) : Option Int := do
  let (century, bytes) ← twoDigits bytes
  let (yy, bytes) ← twoDigits bytes
  let (fields, bytes) ← fieldsAfterYear (century * 100 + yy) bytes
  if dropFraction bytes = [90] then some fields.seconds else none

/-- Whether every byte is a visible character of ASCII, a blank or the delete character. -/
def isVisible (bytes : List UInt8) : Bool := bytes.all fun b => 0x20 ≤ b && b ≤ 0x7F

def ofElement (e : Der.Element) : Option Int :=
  if isVisible e.content then
    match e.header.tag with
    | 23 => utc e.content
    | 24 => generalized e.content
    | _ => none
  else none

/-- Cuts off the first element, which must be a time. -/
def read (bytes : List UInt8) : Except DerError (Int × List UInt8) :=
  match Der.element bytes with
  | .error _ => .error .invalidDate
  | .ok (e, rest) =>
    match ofElement e with
    | some seconds => .ok (seconds, rest)
    | none => .error .invalidDate

end CertRenewal.Certificate.Time
