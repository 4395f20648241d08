/-!
# Decimal integers in a bounded range

`Integer.parse` reads an optional sign and decimal digits. Digits are consumed from the left and
the first fault decides: a character that is no digit, or the digit that takes the value out of
the range, whichever comes first.
-/

namespace CertRenewal.Text

def digit? (c : Char) : Option Nat :=
  if '0' ≤ c ∧ c ≤ '9' then some (c.toNat - '0'.toNat) else none

def isDigit (c : Char) : Bool := (digit? c).isSome

/-- The number that a list of decimal digits stands for; other characters count as zero. -/
def natOfDigits (s : List Char) : Nat :=
  s.foldl (fun n c => n * 10 + (digit? c).getD 0) 0

def digitsOfNat (n : Nat) : List Char := Nat.toDigits 10 n

/-- The decimal digits of a number, filled up with zeros to a least width. -/
def paddedDigits (width n : Nat) : List Char :=
  let digits := digitsOfNat n
  List.replicate (width - digits.length) '0' ++ digits

namespace Integer

/-- Why a text is no integer of the range. -/
inductive Error where
  | empty
  | invalidDigit
  | tooLarge
  | tooSmall
  deriving DecidableEq, Repr

def Error.message : Error → String
  | .empty => "cannot parse integer from empty string"
  | .invalidDigit => "invalid digit found in string"
  | .tooLarge => "number too large to fit in target type"
  | .tooSmall => "number too small to fit in target type"

/-- Reads the digits of a number that must not exceed `hi`, after those that gave `value`. -/
def parseUp (hi value : Int) : List Char → Except Error Int
  | [] => .ok value
  | c :: cs =>
    match digit? c with
    | none => .error .invalidDigit
    | some d =>
      let value := value * 10 + d
      if hi < value then .error .tooLarge else parseUp hi value cs

/-- Reads the digits of a negative number that must not fall below `lo`, after those that gave
`value`. -/
def parseDown (lo value : Int) : List Char → Except Error Int
  | [] => .ok value
  | c :: cs =>
    match digit? c with
    | none => .error .invalidDigit
    | some d =>
      let value := value * 10 - d
      if value < lo then .error .tooSmall else parseDown lo value cs

/-- Reads an integer between `lo` and `hi`: one optional sign, then at least one digit. -/
def parse (lo hi : Int) : List Char → Except Error Int
  | [] => .error .empty
  | ['+'] => .error .invalidDigit
  | ['-'] => .error .invalidDigit
  | '+' :: cs => parseUp hi 0 cs
  | '-' :: cs => parseDown lo 0 cs
  | cs => parseUp hi 0 cs

/-- Reads an integer between zero and `hi`, which may have a plus sign but no minus sign. -/
def parseUnsigned (hi : Int) : List Char → Except Error Int
  | [] => .error .empty
  | ['+'] => .error .invalidDigit
  | '+' :: cs => parseUp hi 0 cs
  | cs => parseUp hi 0 cs

/-- Reads an integer of the 64-bit signed range. -/
def parse64 (s : List Char) : Except Error Int :=
  parse (-9223372036854775808) 9223372036854775807 s

end Integer

end CertRenewal.Text
