import CertRenewal.Calendar
import CertRenewal.Text.Blank
import CertRenewal.Text.Integer
import CertRenewal.Text.Utf8

/-!
# Dates in a node's expiry annotation

A date such as `Aug 10, 2021 13:25 UTC` names a minute. The reader takes its fields from left to
right: where the form has a space there may be any number of blank characters, and blanks may stand
before a number. A field out of its range is reported where it stands; whether the calendar has the
date is asked at the end.
-/

namespace CertRenewal.Expiry.AnnotationDate

inductive Error where
  | invalid
  | outOfRange
  | tooShort
  | trailing
  deriving DecidableEq, Repr

def Error.message : Error → String
  | .invalid => "input contains invalid characters"
  | .outOfRange => "input is out of range"
  | .tooShort => "premature end of input"
  | .trailing => "trailing input"

/-- The letters of a month name in lower case, with its number. -/
def months : List (List Char × Nat) :=
  (Date.monthNames.zipIdx 1).map fun (name, number) => (name.toList.map Char.toLower, number)

/-- Reads the three letters of a month in any case. The text must have three bytes. -/
def month (s : List Char) : Except Error (Nat × List Char) :=
  if Text.Utf8.size s < 3 then .error .tooShort
  else
    match months.lookup ((s.take 3).map Char.toLower) with
    | some number => .ok (number, s.drop 3)
    | none => .error .invalid

/-- Reads digits that continue a number, at most `limit` of them when there is a limit. The number
must fit 64 bits. -/
def digits (limit : Option Nat) (value : Nat) : List Char → Except Error (Nat × List Char)
  | [] => .ok (value, [])
  | c :: cs =>
    if limit = some 0 then .ok (value, c :: cs)
    else
      match Text.digit? c with
      | none => .ok (value, c :: cs)
      | some d =>
        let value := value * 10 + d
        if 9223372036854775807 < value then .error .outOfRange
        else digits (limit.map (· - 1)) value cs

/-- Reads a number of at least one digit. -/
def number (limit : Option Nat) : List Char → Except Error (Nat × List Char)
  | [] => .error .tooShort
  | c :: cs =>
    match Text.digit? c with
    | none => .error .invalid
    | some _ => digits limit 0 (c :: cs)

/-- Reads a field of one or two digits that lies in a range. -/
def field (least greatest : Nat) (s : List Char) : Except Error (Nat × List Char) := do
  let (value, rest) ← number (some 2) (Text.trimStart s)
  if least ≤ value ∧ value ≤ greatest then return (value, rest) else throw .outOfRange

/-- Reads a year: up to four digits, or a sign and any number of digits. A year must fit 32 bits. -/
def year (s : List Char) : Except Error (Int × List Char) := do
  let s := Text.trimStart s
  let (value, rest) ←
    match s with
    | '-' :: s => (number none s).map fun (n, rest) => (-(n : Int), rest)
    | '+' :: s => (number none s).map fun (n, rest) => ((n : Int), rest)
    | s => (number (some 4) s).map fun (n, rest) => ((n : Int), rest)
  if -2147483648 ≤ value ∧ value ≤ 2147483647 then return (value, rest) else throw .outOfRange

def literal (c : Char) : List Char → Except Error (List Char)
  | [] => .error .tooShort
  | d :: rest => if d = c then .ok rest else .error .invalid

def isSupportedYear (year : Int) : Bool := -262143 ≤ year && year ≤ 262142

/-- Reads a date of the form `Mon DD, YYYY HH:MM`. -/
def parse (s : List Char) : Except Error Instant := do
  let (month, s) ← month s
  let (day, s) ← field 1 31 s
  let s ← literal ',' s
  let (year, s) ← year s
  let (hour, s) ← field 0 23 s
  let s ← literal ':' s
  let (minute, s) ← field 0 59 s
  if s ≠ [] then throw .trailing
  let date : Date := ⟨year, month, day⟩
  if isSupportedYear year ∧ date.exists? then return Instant.ofCivil date hour minute 0
  else throw .outOfRange

end CertRenewal.Expiry.AnnotationDate
