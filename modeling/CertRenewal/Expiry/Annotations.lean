import CertRenewal.Expiry.AnnotationDate
import CertRenewal.Text.Split

/-!
# The expiry annotation of a node

A node carries the expiry dates of the certificates on it in an annotation such as
`{admin.conf: Aug 10, 2021 13:25 UTC},{apiserver: Sep 01, 2021 09:05 UTC}`. Entries are read one by
one and the first that is malformed decides the error.
-/

namespace CertRenewal.Expiry.Annotations

inductive Error where
  /-- An entry has no colon. -/
  | entry (text : String)
  /-- The date of a certificate cannot be read. -/
  | date (certificate text : String) (cause : AnnotationDate.Error)
  deriving DecidableEq, Repr

abbrev Entry := String × Instant

def unwrap (piece : List Char) : List Char :=
  Text.dropEndWhile (· == '}') ((Text.trim piece).dropWhile (· == '{'))

/-- Removes every `UTC` from the end. -/
def dropZones (s : List Char) : List Char :=
  go s.reverse s.reverse.length
where
  /-- The same on the reversed text, with a bound on the number of zones. -/
  go (reversed : List Char) : Nat → List Char
    | 0 => reversed.reverse
    | n + 1 =>
      match reversed with
      | 'C' :: 'T' :: 'U' :: rest => go rest n
      | _ => reversed.reverse

/-- The texts of the entries, in order; an empty one is no entry. -/
def entryTexts (value : List Char) : List (List Char) :=
  ((Text.splitOn ['}', ','] value).map unwrap).filter (!·.isEmpty)

/-- Reads one entry: a certificate name, a colon and a date. -/
def parseEntry (entry : List Char) : Except Error Entry :=
  match Text.cut ':' entry with
  | none => .error (.entry (String.ofList entry))
  | some (name, date) =>
    let certificate := String.ofList (Text.trim name)
    let date := Text.trim date
    match AnnotationDate.parse (Text.trim (dropZones date)) with
    | .ok instant => .ok (certificate, instant)
    | .error cause => .error (.date certificate (String.ofList date) cause)

def parse (value : String) : Except Error (List Entry) :=
  (entryTexts value.toList).mapM parseEntry

end CertRenewal.Expiry.Annotations
