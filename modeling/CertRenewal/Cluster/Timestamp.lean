import CertRenewal.Expiry.AnnotationDate

/-!
# Timestamps of cluster objects

A timestamp is read generously: fields need not be filled up with zeros, blanks may stand between
them, and the zone may be a letter, a name or an offset. It is written in UTC to the second.
-/

namespace CertRenewal.Cluster.Timestamp

open CertRenewal.Expiry (AnnotationDate.number AnnotationDate.year AnnotationDate.literal
  AnnotationDate.isSupportedYear)

/-- Reads a number of one or two digits, with blanks before it. -/
def field (s : List Char) : Option (Nat × List Char) :=
  (AnnotationDate.number (some 2) (Text.trimStart s)).toOption

def mark (c : Char) (s : List Char) : Option (List Char) :=
  (AnnotationDate.literal c (Text.trimStart s)).toOption

/-- Passes over the fraction of a second, which may be missing. -/
def dropFraction : List Char → Option (List Char)
  | '.' :: rest =>
    let after := rest.dropWhile Text.isDigit
    if after.length = rest.length then none else some after
  | rest => some rest

/-- Reads the digits of an offset, in minutes. -/
def offsetDigits (s : List Char) : Option (Nat × List Char) :=
  match s with
  | a :: b :: rest => do
    let hours := (← Text.digit? a) * 10 + (← Text.digit? b)
    match rest.dropWhile fun c => c = ':' || Text.isBlank c with
    | c :: d :: rest =>
      let tens ← Text.digit? c
      let ones ← Text.digit? d
      if tens < 6 && hours < 24 then some (hours * 60 + tens * 10 + ones, rest) else none
    | _ => none
  | _ => none

def zone (s : List Char) : Option (Int × List Char) :=
  if (s.take 3).map Char.toLower = ['u', 't', 'c'] then some (0, s.drop 3)
  else
    match s with
    | 'z' :: rest | 'Z' :: rest => some (0, rest)
    | '+' :: rest => (offsetDigits rest).map fun (m, rest) => ((m : Int), rest)
    | '-' :: rest | '\u2212' :: rest => (offsetDigits rest).map fun (m, rest) => (-(m : Int), rest)
    | _ => none

/-- Reads a timestamp and writes it in UTC; a leap second is kept. -/
def normalize (s : List Char) : Option (List Char) := do
  let (year, s) ← (AnnotationDate.year s).toOption
  let (month, s) ← field (← mark '-' s)
  let (day, s) ← field (← mark '-' s)
  let s ←
    match s with
    | 't' :: s | 'T' :: s | ' ' :: s => some s
    | _ => none
  let (hour, s) ← field s
  let (minute, s) ← field (← mark ':' s)
  let (second, s) ← field (← mark ':' s)
  let (offset, rest) ← zone (Text.trimStart (← dropFraction s))
  let date : Date := ⟨year, month, day⟩
  let leap := second = 60
  let instant := Instant.ofCivil date hour minute (if leap then 59 else second)
  let utc := Instant.ofSeconds (instant.seconds - offset * 60)
  if rest = [] ∧ AnnotationDate.isSupportedYear year ∧ date.exists? ∧ hour < 24 ∧ minute < 60 ∧
      second ≤ 60 ∧ Instant.isSupported utc.seconds then
    let s := utc.secondOfDay
    return utc.date.text ++ 'T' :: Text.paddedDigits 2 (s / 3600) ++
      ':' :: Text.paddedDigits 2 (s / 60 % 60) ++
      ':' :: Text.paddedDigits 2 (s % 60 + if leap then 1 else 0) ++ ['Z']
  else none

end CertRenewal.Cluster.Timestamp
