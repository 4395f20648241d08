import CertRenewal.Text.Blank
import CertRenewal.Text.Integer
import CertRenewal.Text.Utf8

/-!
# Durations in words

A duration is written as a sequence of items such as `3d 12h` or `1.5 hours`: a number, possibly
with a fraction, and a unit. Blank characters may stand before and after a number, between its
digits, and after a unit. The reader looks at each character once; where it stands between
characters is a `Reading`.
-/

namespace CertRenewal

/-- A span of time in seconds and nanoseconds. -/
structure Duration where
  seconds : Nat
  nanos : Nat
  deriving DecidableEq, Repr

namespace Duration

/-- Why a text is no duration. Offsets count bytes. -/
inductive Error where
  | empty
  | numberExpected (offset : Nat)
  | invalidCharacter (offset : Nat)
  | unitNeeded (number : Nat)
  | unknownUnit (unit : String)
  | overflow
  deriving DecidableEq, Repr

def Error.message : Error → String
  | .empty => "value was empty"
  | .numberExpected offset => "expected number at " ++ toString offset
  | .invalidCharacter offset => "invalid character at " ++ toString offset
  | .unitNeeded n =>
    "time unit needed, for example " ++ toString n ++ "sec or " ++ toString n ++ "ms"
  | .unknownUnit unit =>
    "unknown time unit \"" ++ unit ++ "\", supported units: ns, us/µs, ms, sec, min, hours, " ++
      "days, weeks, months, years (and few variations)"
  | .overflow =>
    "number is too large or cannot be represented without a lack of precision (values below 1ns " ++
      "are not supported)"

inductive TimeUnit where
  | nanosecond | microsecond | millisecond | second | minute | hour | day | week | month | year
  deriving DecidableEq, Repr

namespace TimeUnit

def ofName? : String → Option TimeUnit
  | "nanos" | "nsec" | "ns" => some .nanosecond
  | "usec" | "us" | "µs" => some .microsecond
  | "millis" | "msec" | "ms" => some .millisecond
  | "seconds" | "second" | "secs" | "sec" | "s" => some .second
  | "minutes" | "minute" | "min" | "mins" | "m" => some .minute
  | "hours" | "hour" | "hr" | "hrs" | "h" => some .hour
  | "days" | "day" | "d" => some .day
  | "weeks" | "week" | "wk" | "wks" | "w" => some .week
  | "months" | "month" | "M" => some .month
  | "years" | "year" | "yr" | "yrs" | "y" => some .year
  | _ => none

/-- How many seconds (left) or nanoseconds (right) a unit has. A month is 30.44 days and a year is
365.25 days. -/
def size : TimeUnit → Nat × Nat
  | .nanosecond => (0, 1)
  | .microsecond => (0, 1000)
  | .millisecond => (0, 1000000)
  | .second => (1, 0)
  | .minute => (60, 0)
  | .hour => (3600, 0)
  | .day => (86400, 0)
  | .week => (604800, 0)
  | .month => (2630016, 0)
  | .year => (31557600, 0)

/-- How many seconds (left) or nanoseconds (right) a fraction of the unit is a multiple of: a
fraction of a minute or less is counted in nanoseconds, one of an hour or more in seconds, and a
nanosecond has no fractions. -/
def fractionSize : TimeUnit → Option (Nat × Nat)
  | .nanosecond => none
  | .second => some (0, 1000000000)
  | .minute => some (0, 60000000000)
  | unit => some unit.size

end TimeUnit

/-- The number when it fits 64 bits. -/
def checked (n : Nat) : Except Error Nat :=
  if n < 18446744073709551616 then .ok n else .error .overflow

/-- A duration with seconds and nanoseconds added to it; no sum may leave 64 bits. -/
def add (d : Duration) (seconds nanos : Nat) : Except Error Duration := do
  let nanos ← checked (d.nanos + nanos)
  let carried ← checked (seconds + nanos / 1000000000)
  let total ← checked (d.seconds + carried)
  return ⟨total, nanos % 1000000000⟩

/-- A decimal fraction of a number: so many parts of so many. -/
structure Fraction where
  numerator : Nat
  denominator : Nat
  deriving DecidableEq, Repr

/-- The quotient when the division leaves no remainder. -/
def exactly (n d : Nat) : Except Error Nat :=
  if n % d = 0 then .ok (n / d) else .error .overflow

def addItem (d : Duration) (number : Nat) (fraction : Option Fraction) (name : List Char) :
    Except Error Duration := do
  if name.isEmpty then throw (.unitNeeded number)
  let unit ←
    match TimeUnit.ofName? (String.ofList name) with
    | some unit => pure unit
    | none => throw (.unknownUnit (String.ofList name))
  let seconds ← checked (number * unit.size.1)
  let nanos ← checked (number * unit.size.2)
  let d ← d.add seconds nanos
  match fraction with
  | none => return d
  | some f =>
    match unit.fractionSize with
    | none => throw .overflow
    | some (perSecond, perNano) =>
      let seconds ← exactly (← checked (f.numerator * perSecond)) f.denominator
      let nanos ← exactly (← checked (f.numerator * perNano)) f.denominator
      d.add seconds nanos

def isUnitLetter (c : Char) : Bool :=
  ('a' ≤ c && c ≤ 'z') || ('A' ≤ c && c ≤ 'Z') || c == 'µ'

/-- Where the reader stands between two characters. -/
inductive Reading where
  /-- Before the first item. -/
  | nothing
  /-- Before a later item, after a blank character; `since` is the offset behind it. -/
  | between (since : Nat)
  /-- Inside the integer part of a number. -/
  | number (value : Nat)
  /-- Inside the fraction of a number, at the offset to name when no digit of it comes. -/
  | fraction (value : Nat) (digits : Fraction) (offset : Nat)
  /-- Inside a unit, whose letters so far are kept in reverse. -/
  | unit (value : Nat) (digits : Option Fraction) (letters : List Char)
  deriving DecidableEq, Repr

/-- The fraction with one digit more. -/
def Fraction.push (f : Fraction) (digit : Nat) : Except Error Fraction := do
  let denominator ← checked (f.denominator * 10)
  let numerator ← checked (f.numerator * 10 + digit)
  return ⟨numerator, denominator⟩

/-- A fraction needs a digit. -/
def Fraction.complete (f : Fraction) (offset : Nat) : Except Error Fraction :=
  if f.denominator = 1 then .error (.invalidCharacter offset) else .ok f

/-- One step of the reader: the character `c` stands at byte `offset`, and `total` is the sum of
the items before. -/
def step (total : Duration) (reading : Reading) (offset : Nat) (c : Char) :
    Except Error (Duration × Reading) :=
  let behind := offset + Text.Utf8.width c
  match reading with
  | .nothing =>
    match Text.digit? c with
    | some d => .ok (total, .number d)
    | none => if Text.isBlank c then .ok (total, .nothing) else .error (.numberExpected 0)
  | .between since =>
    match Text.digit? c with
    | some d => .ok (total, .number d)
    | none => if Text.isBlank c then .ok (total, .between since) else .error (.numberExpected since)
  | .number n =>
    match Text.digit? c with
    | some d => (checked (n * 10 + d)).map fun n => (total, .number n)
    | none =>
      if Text.isBlank c then .ok (total, .number n)
      else if isUnitLetter c then .ok (total, .unit n none [c])
      else if c = '.' then .ok (total, .fraction n ⟨0, 1⟩ offset)
      else .error (.invalidCharacter offset)
  | .fraction n f at_ =>
    match Text.digit? c with
    | some d => (f.push d).map fun f => (total, .fraction n f behind)
    | none =>
      if Text.isBlank c then .ok (total, .fraction n f behind)
      else if isUnitLetter c then (f.complete at_).map fun f => (total, .unit n (some f) [c])
      else .error (.invalidCharacter at_)
  | .unit n f letters =>
    match Text.digit? c with
    | some d => (total.addItem n f letters.reverse).map fun total => (total, .number d)
    | none =>
      if Text.isBlank c then
        (total.addItem n f letters.reverse).map fun total => (total, .between behind)
      else if isUnitLetter c then .ok (total, .unit n f (c :: letters))
      else .error (.invalidCharacter offset)

/-- What the reader answers when the text ends. -/
def finish (total : Duration) : Reading → Except Error Duration
  | .nothing => .error .empty
  | .between _ => .ok total
  | .number n => total.addItem n none []
  | .fraction n f offset => do total.addItem n (some (← f.complete offset)) []
  | .unit n f letters => total.addItem n f letters.reverse

/-- Reads on from a state of the reader. -/
def parseFrom (total : Duration) (reading : Reading) (offset : Nat) :
    List Char → Except Error Duration
  | [] => finish total reading
  | c :: cs =>
    match step total reading offset c with
    | .error e => .error e
    | .ok (total, reading) => parseFrom total reading (offset + Text.Utf8.width c) cs

/-- Reads a duration. A lone zero needs no unit. -/
def parse (s : List Char) : Except Error Duration :=
  if s = ['0'] then .ok ⟨0, 0⟩ else parseFrom ⟨0, 0⟩ .nothing 0 s

end Duration

end CertRenewal
