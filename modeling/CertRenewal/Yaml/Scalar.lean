import CertRenewal.Number.Double
import CertRenewal.Yaml.Character

/-!
# How YAML reads and writes scalars

A plain scalar may read as a null, a Boolean or a number; a string of such a form is written in
quotes. Which of the written forms a string takes is decided by its characters: plain where YAML
would read it back, single-quoted where it would not, a literal block when it holds line feeds, and
double-quoted with escapes for the rest.
-/

namespace CertRenewal.Yaml

/-! ## What a plain scalar reads as -/

def isNullWord (s : List Char) : Bool :=
  ["null", "Null", "NULL", "~"].contains (String.ofList s)

def isBoolWord (s : List Char) : Bool :=
  ["true", "True", "TRUE", "false", "False", "FALSE"].contains (String.ofList s)

def dropSign : List Char → List Char
  | '+' :: rest => rest
  | '-' :: rest => rest
  | s => s

/-- Several digits of which the first is zero, which YAML does not read as a number. -/
def isZeroLed (s : List Char) : Bool :=
  match dropSign s with
  | '0' :: c :: rest => Text.isDigit c && rest.all Text.isDigit
  | _ => false

/-- The value of a digit of a base up to sixteen. -/
def baseDigit? (base : Nat) (c : Char) : Option Nat :=
  let n := c.toNat
  let d? :=
    if 48 ≤ n ∧ n ≤ 57 then some (n - 48)
    else if 65 ≤ n ∧ n ≤ 70 then some (n - 55)
    else if 97 ≤ n ∧ n ≤ 102 then some (n - 87)
    else none
  d?.filter (· < base)

/-- Whether a text is a number of a base that does not exceed a limit. -/
def isBounded (base limit : Nat) (digits : List Char) : Bool :=
  match digits.mapM (baseDigit? base) with
  | some (d :: ds) => (d :: ds).foldl (fun n d => n * base + d) 0 ≤ limit
  | _ => false

/-- Whether a text is an integer with the mark of base sixteen, eight or two. The magnitude must fit
128 bits, with a sign bit when it is negative. -/
def isMarkedInteger (s : List Char) : Bool :=
  let (negative, body) :=
    match s with
    | '-' :: rest => (true, rest)
    | '+' :: rest => (false, rest)
    | rest => (false, rest)
  let limit := if negative then Nat.pow 2 127 else Nat.pow 2 128 - 1
  match body with
  | '0' :: 'x' :: digits => isBounded 16 limit digits
  | '0' :: 'o' :: digits => isBounded 8 limit digits
  | '0' :: 'b' :: digits => isBounded 2 limit digits
  | _ => false

/-- Whether a text without a sign is digits with an optional point, at least one digit, and an
optional exponent, and its value is finite. -/
def isDecimal (s : List Char) : Bool :=
  let whole := s.takeWhile Text.isDigit
  let rest := s.dropWhile Text.isDigit
  let (part, rest) :=
    match rest with
    | '.' :: rest => (rest.takeWhile Text.isDigit, rest.dropWhile Text.isDigit)
    | rest => ([], rest)
  let finite (exponent : Int) : Bool :=
    (Number.Double.nearest (Text.natOfDigits (whole ++ part)) (exponent - part.length)).isSome
  if whole.isEmpty && part.isEmpty then false
  else
    match rest with
    | [] => finite 0
    | c :: rest =>
      if c = 'e' ∨ c = 'E' then
        let digits := dropSign rest
        let n : Int := Text.natOfDigits digits
        !digits.isEmpty && digits.all Text.isDigit &&
          finite (if rest.head? = some '-' then -n else n)
      else false

/-- Whether a text reads as a decimal number, an infinity or as not a number. -/
def isFloat (s : List Char) : Bool :=
  let unsigned := if s.head? = some '+' then s.drop 1 else s
  let infinities := [".inf", ".Inf", ".INF"]
  infinities.contains (String.ofList unsigned) ||
  (s.head? = some '-' && infinities.contains (String.ofList (s.drop 1))) ||
  [".nan", ".NaN", ".NAN"].contains (String.ofList s) ||
  isDecimal (dropSign s)

/-- Whether a plain scalar would read as something else than a string, or is so like a number that
other readers would take it for one. -/
def isAmbiguous (s : List Char) : Bool :=
  s.isEmpty || isNullWord s || isBoolWord s || isZeroLed s || isMarkedInteger s || isFloat s

/-! ## Characters -/

/-- The characters that need no escape. -/
def isPrintable (c : Char) : Bool :=
  let n := c.toNat
  n == 0x0A || (0x20 ≤ n && n ≤ 0x7E) || (0xA0 ≤ n && n ≤ 0xD7FF) ||
  (0xE000 ≤ n && n ≤ 0xFFFD && n != 0xFEFF) || 0x10000 ≤ n

/-- Whether some character of a text and the one behind it, if any, have a property. -/
def anyAdjacent (p : Char → Option Char → Bool) : List Char → Bool
  | [] => false
  | c :: rest => p c rest.head? || anyAdjacent p rest

/-! ## The written forms of a string -/

/-- The characters that have a meaning of their own at the start of a scalar. -/
def leadingIndicators : List Char := "#,[]\x7b\x7d&*!|>'\x22%@`".toList

/-- Whether a plain scalar of these characters would be taken for something else in a block. -/
def hasIndicator (s : List Char) : Bool :=
  "---".toList.isPrefixOf s || "...".toList.isPrefixOf s ||
  (match s with
    | [] => false
    | c :: rest =>
      leadingIndicators.contains c ||
      ((c = '?' || c = '-') && isBlankOrEnd rest.head?)) ||
  anyAdjacent (fun c next => c = ':' && isBlankOrEnd next) s ||
  anyAdjacent (fun c next => isBlankOrEnd (some c) && next = some '#') s

/-- Whether a string holds characters, or spaces beside line breaks, that only escapes keep. -/
def needsEscapes (s : List Char) : Bool :=
  s.any (fun c => !isPrintable c) ||
  anyAdjacent (fun c next => c = ' ' && (next.map isBreak).getD false) s

/-- Whether a string starts or ends with a space or a line break. -/
def hasOuterSpace (s : List Char) : Bool :=
  let outer (c : Option Char) : Bool := (c.map fun c => c = ' ' || isBreak c).getD false
  outer s.head? || outer s.getLast?

inductive Style where
  | plain
  | singleQuoted
  | doubleQuoted
  | literal
  deriving DecidableEq, Repr

def style (s : List Char) : Style :=
  if needsEscapes s then .doubleQuoted
  else if s.contains '\n' then
    if s.getLast? = some ' ' then .doubleQuoted else .literal
  else if anyAdjacent (fun c next => isBreak c && next = some ' ') s then .doubleQuoted
  else if isAmbiguous s || hasOuterSpace s || s.any isBreak || hasIndicator s then .singleQuoted
  else .plain

def hexDigit (n : Nat) : Char :=
  if n < 10 then Char.ofNat (48 + n) else Char.ofNat (55 + n)

/-- A number in base sixteen, in a width. -/
def hexDigits : Nat → Nat → List Char
  | 0, _ => []
  | width + 1, n => hexDigits width (n / 16) ++ [hexDigit (n % 16)]

def escape (c : Char) : List Char :=
  let n := c.toNat
  if isPrintable c ∧ ¬ isBreak c ∧ c ≠ '\x22' ∧ c ≠ '\\' then [c]
  else
    '\\' ::
      match n with
      | 0x00 => ['0'] | 0x07 => ['a'] | 0x08 => ['b'] | 0x09 => ['t'] | 0x0A => ['n']
      | 0x0B => ['v'] | 0x0C => ['f'] | 0x0D => ['r'] | 0x1B => ['e'] | 0x22 => ['\x22']
      | 0x5C => ['\\'] | 0x85 => ['N'] | 0x2028 => ['L'] | 0x2029 => ['P']
      | _ =>
        if n ≤ 0xFF then 'x' :: hexDigits 2 n
        else if n ≤ 0xFFFF then 'u' :: hexDigits 4 n
        else 'U' :: hexDigits 8 n

def indentation (indent : Nat) : List Char := List.replicate indent ' '

/-- The characters of a single-quoted scalar, where a quote is written twice. What follows a line
break is indented; `fresh` says whether a line break stands before. -/
def singleQuotedBody (indent : Nat) (fresh : Bool) : List Char → List Char
  | [] => if fresh then indentation indent else []
  | c :: rest =>
    if isBreak c then c :: singleQuotedBody indent true rest
    else
      (if fresh then indentation indent else []) ++ (if c = '\x27' then [c, c] else [c]) ++
        singleQuotedBody indent false rest

/-- The lines of a literal block, each indented; `fresh` says whether a line break stands
before. -/
def literalBody (indent : Nat) (fresh : Bool) : List Char → List Char
  | [] => if fresh then [] else ['\n']
  | c :: rest =>
    if isBreak c then c :: literalBody indent true rest
    else (if fresh then indentation indent else []) ++ c :: literalBody indent false rest

/-- The marks behind the `|` of a literal block: the depth of its indentation, when its first line
does not show it, and whether line breaks at its end are to be dropped or all kept. -/
def literalMarks (s : List Char) : List Char :=
  (match s with
    | c :: _ => if c = ' ' ∨ isBreak c then ['2'] else []
    | [] => []) ++
  (match s.reverse with
    | [] => ['-']
    | [c] => if isBreak c then ['+'] else ['-']
    | c :: d :: _ => if isBreak c then (if isBreak d then ['+'] else []) else ['-'])

/-- A string behind the mark that introduces it, up to the end of its last line. Lines that continue
it are indented to the given column. -/
def stringText (indent : Nat) (s : List Char) : List Char :=
  match style s with
  | .plain => ' ' :: (s ++ ['\n'])
  | .singleQuoted => ' ' :: '\x27' :: (singleQuotedBody indent false s ++ ['\x27', '\n'])
  | .doubleQuoted => ' ' :: '\x22' :: (s.flatMap escape ++ ['\x22', '\n'])
  | .literal => ' ' :: '|' :: (literalMarks s ++ '\n' :: literalBody indent true s)

end CertRenewal.Yaml
