import CertRenewal.Json.Basic

/-!
# Reading JSON

`parse` reads one value that fills the whole text. Fields are kept in the order of the text, with
those that repeat a key. A number without fraction and exponent that fits 64 bits is an integer; any
other is rounded to a double, and one that is too large for that is refused.
-/

namespace CertRenewal.Json.Parser

def skipBlanks (s : List Char) : List Char :=
  s.dropWhile fun c => c = ' ' || c = '\t' || c = '\n' || c = '\x0d'

def hexDigit? (c : Char) : Option Nat :=
  let n := c.toNat
  if 48 ≤ n ∧ n ≤ 57 then some (n - 48)
  else if 65 ≤ n ∧ n ≤ 70 then some (n - 55)
  else if 97 ≤ n ∧ n ≤ 102 then some (n - 87)
  else none

def hexNumber? (a b c d : Char) : Option Nat := do
  return (((← hexDigit? a) * 16 + (← hexDigit? b)) * 16 + (← hexDigit? c)) * 16 + (← hexDigit? d)

def shortEscape? : Char → Option Char
  | '\x22' => some '\x22'
  | '\\' => some '\\'
  | '/' => some '/'
  | 'b' => some '\x08'
  | 'f' => some '\x0c'
  | 'n' => some '\n'
  | 'r' => some '\x0d'
  | 't' => some '\t'
  | _ => none

/-- Reads a string whose opening quote has been read; `text` holds its characters in reverse. A
high surrogate must be followed by a low one. -/
def stringBody (text : List Char) : List Char → Option (String × List Char)
  | '\x22' :: rest => some (String.ofList text.reverse, rest)
  | '\\' :: 'u' :: a :: b :: c :: d :: rest =>
    match hexNumber? a b c d with
    | none => none
    | some n =>
      if 0xD800 ≤ n ∧ n < 0xDC00 then
        match rest with
        | '\\' :: 'u' :: e :: f :: g :: h :: rest =>
          match hexNumber? e f g h with
          | none => none
          | some m =>
            if 0xDC00 ≤ m ∧ m < 0xE000 then
              stringBody (Char.ofNat (0x10000 + (n - 0xD800) * 1024 + (m - 0xDC00)) :: text) rest
            else none
        | _ => none
      else if 0xDC00 ≤ n ∧ n < 0xE000 then none
      else stringBody (Char.ofNat n :: text) rest
  | '\\' :: c :: rest =>
    match shortEscape? c with
    | some c => stringBody (c :: text) rest
    | none => none
  | c :: rest => if c.toNat < 32 then none else stringBody (c :: text) rest
  | [] => none

def digits (s : List Char) : List Char × List Char :=
  (s.takeWhile Text.isDigit, s.dropWhile Text.isDigit)

/-- Reads a fraction, which may be missing; nothing when the point has no digits. -/
def fraction : List Char → Option (List Char × List Char)
  | '.' :: rest =>
    let (ds, rest) := digits rest
    if ds.isEmpty then none else some (ds, rest)
  | rest => some ([], rest)

/-- Reads the digits of an exponent and its sign. -/
def exponentDigits (negative : Bool) (s : List Char) : Option (Option Int × List Char) :=
  let (ds, rest) := digits s
  if ds.isEmpty then none
  else
    let n : Int := Text.natOfDigits ds
    some (some (if negative then -n else n), rest)

/-- Reads an exponent, which may be missing. -/
def exponent : List Char → Option (Option Int × List Char)
  | c :: rest =>
    if c = 'e' ∨ c = 'E' then
      match rest with
      | '-' :: rest => exponentDigits true rest
      | '+' :: rest => exponentDigits false rest
      | rest => exponentDigits false rest
    else some (none, c :: rest)
  | [] => some (none, [])

/-- The number with the given digits before and after the point and the given exponent. -/
def numberOf (negative : Bool) (whole part : List Char) (exp : Option Int) : Option Number :=
  let value : Int := Text.natOfDigits whole
  let fits : Bool :=
    if negative then value ≠ 0 && value ≤ 9223372036854775808 else value < 18446744073709551616
  if part.isEmpty && exp.isNone && fits then
    some (.integer (if negative then -value else value))
  else
    let decimal : CertRenewal.Number.Decimal :=
      ⟨negative, Text.natOfDigits (whole ++ part), exp.getD 0 - part.length⟩
    decimal.toDouble?.map .decimal

/-- Reads a number whose sign has been read. A zero at the start stands alone. -/
def number (negative : Bool) (s : List Char) : Option (Number × List Char) := do
  let (whole, rest) ←
    match s with
    | '0' :: rest => some (['0'], rest)
    | s =>
      let (ds, rest) := digits s
      if ds.isEmpty then none else some (ds, rest)
  let (part, rest) ← fraction rest
  let (exp, rest) ← exponent rest
  return (← numberOf negative whole part exp, rest)

def word (text : String) (value : Json) (s : List Char) : Option (Json × List Char) :=
  let chars := text.toList
  if chars.isPrefixOf s then some (value, s.drop chars.length) else none

mutual

/-- Reads a value, with blanks before it. Every step of the readers takes at least one character,
so that a fuel of the length of the text is enough. -/
def value : Nat → List Char → Option (Json × List Char)
  | 0, _ => none
  | fuel + 1, s =>
    match skipBlanks s with
    | '\x22' :: rest => (stringBody [] rest).map fun (s, rest) => (.string s, rest)
    | '[' :: rest =>
      match skipBlanks rest with
      | ']' :: rest => some (.array [], rest)
      | rest => (items fuel rest).map fun (items, rest) => (.array items, rest)
    | '{' :: rest =>
      match skipBlanks rest with
      | '}' :: rest => some (.object [], rest)
      | rest => (fields fuel rest).map fun (fields, rest) => (.object fields, rest)
    | '-' :: rest => (number true rest).map fun (n, rest) => (.number n, rest)
    | 'n' :: rest => word "ull" .null rest
    | 't' :: rest => word "rue" (.bool true) rest
    | 'f' :: rest => word "alse" (.bool false) rest
    | rest => (number false rest).map fun (n, rest) => (.number n, rest)

/-- Reads the items of an array, at least one, and its end. -/
def items : Nat → List Char → Option (List Json × List Char)
  | 0, _ => none
  | fuel + 1, s =>
    match value fuel s with
    | none => none
    | some (item, rest) =>
      match skipBlanks rest with
      | ']' :: rest => some ([item], rest)
      | ',' :: rest => (items fuel rest).map fun (more, rest) => (item :: more, rest)
      | _ => none

/-- Reads the fields of an object, at least one, and its end. -/
def fields : Nat → List Char → Option (Fields × List Char)
  | 0, _ => none
  | fuel + 1, s =>
    match skipBlanks s with
    | '\x22' :: rest =>
      match stringBody [] rest with
      | none => none
      | some (key, rest) =>
        match skipBlanks rest with
        | ':' :: rest =>
          match value fuel rest with
          | none => none
          | some (item, rest) =>
            match skipBlanks rest with
            | '}' :: rest => some ([(key, item)], rest)
            | ',' :: rest => (fields fuel rest).map fun (more, rest) => ((key, item) :: more, rest)
            | _ => none
        | _ => none
    | _ => none

end

end CertRenewal.Json.Parser

namespace CertRenewal.Json

mutual

/-- How many arrays and objects lie inside each other in a value. -/
def nesting : Json → Nat
  | .array items => nestingOfItems items + 1
  | .object fields => nestingOfFields fields + 1
  | _ => 0

def nestingOfItems : List Json → Nat
  | [] => 0
  | value :: rest => max (nesting value) (nestingOfItems rest)

def nestingOfFields : Fields → Nat
  | [] => 0
  | (_, value) :: rest => max (nesting value) (nestingOfFields rest)

end

/-- How deep a value may be nested that is read. -/
def maxNesting : Nat := 127

/-- Reads a text that is one JSON value, which must not be nested too deep. -/
def parse (s : List Char) : Option Json :=
  match Parser.value (s.length + 1) s with
  | some (value, rest) =>
    if Parser.skipBlanks rest = [] && value.nesting ≤ maxNesting then some value else none
  | none => none

end CertRenewal.Json
