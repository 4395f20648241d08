import CertRenewal.Text.Integer

/-!
# Decimal fractions in double precision

Numbers with a fraction are kept to the precision of a double: `nearest` rounds a decimal to
`significand * 2 ^ exponent` with a significand of at most 53 bits, a tie going to the even one.
`shortest` gives the fewest decimal digits that are nearer to a double than to its neighbours, and
of those the nearest to it. All of it is exact integer arithmetic.
-/

namespace CertRenewal.Number

/-- A finite double that is not negative: `significand * 2 ^ exponent`. -/
structure Double where
  significand : Nat
  exponent : Int
  deriving DecidableEq, Repr

/-- A decimal: `digits * 10 ^ exponent`, with its sign. -/
structure Decimal where
  negative : Bool
  digits : Nat
  exponent : Int
  deriving DecidableEq, Repr

namespace Double

def roundDiv (n d : Nat) : Nat :=
  let q := n / d
  let twice := 2 * (n % d)
  if twice < d then q else if d < twice then q + 1 else q + q % 2

/-- The quotient of `n / d` and `2 ^ e`, rounded. -/
def roundScaled (n d : Nat) (e : Int) : Nat :=
  if 0 ≤ e then roundDiv n (d * Nat.pow 2 e.toNat) else roundDiv (n * Nat.pow 2 (-e).toNat) d

/-- The double nearest to `n / d`, unless it is too large. The exponent is the one that leaves 53
bits, but not below that of the smallest double. -/
def ofRatio (n d : Nat) : Option Double :=
  if n = 0 then some ⟨0, 0⟩
  else
    let estimate : Int := (Nat.log2 n : Int) - Nat.log2 d - 52
    let tooSmall : Bool :=
      if 0 ≤ estimate then n < d * Nat.pow 2 (estimate.toNat + 52)
      else n * Nat.pow 2 (-estimate).toNat < d * Nat.pow 2 52
    let e := max (if tooSmall then estimate - 1 else estimate) (-1074)
    let m := roundScaled n d e
    let rounded : Double := if m = Nat.pow 2 53 then ⟨Nat.pow 2 52, e + 1⟩ else ⟨m, e⟩
    if 971 < rounded.exponent then none else some rounded

/-- The double nearest to `digits * 10 ^ exponent`, unless it is too large. Exponents far outside
the range of doubles are decided without computing the power. -/
def nearest (digits : Nat) (exponent : Int) : Option Double :=
  let magnitude : Int := (Text.digitsOfNat digits).length + exponent
  if digits = 0 ∨ magnitude < -400 then some ⟨0, 0⟩
  else if 400 < magnitude then none
  else if 0 ≤ exponent then ofRatio (digits * Nat.pow 10 exponent.toNat) 1
  else ofRatio digits (Nat.pow 10 (-exponent).toNat)

def ratio (x : Double) : Nat × Nat :=
  if 0 ≤ x.exponent then (x.significand * Nat.pow 2 x.exponent.toNat, 1)
  else (x.significand, Nat.pow 2 (-x.exponent).toNat)

def readsBack (x : Double) (digits : Nat) (exponent : Int) : Bool :=
  match nearest digits exponent with
  | some y => y.ratio.1 * x.ratio.2 == x.ratio.1 * y.ratio.2
  | none => false

/-- The decimals next to a double on the grid of multiples of `10 ^ exponent`: the one below or at
it, and how far it lies above that, as a ratio. -/
def below (x : Double) (exponent : Int) : Nat × Nat × Nat :=
  let (n, d) := x.ratio
  let (n, d) :=
    if 0 ≤ exponent then (n, d * Nat.pow 10 exponent.toNat)
    else (n * Nat.pow 10 (-exponent).toNat, d)
  (n / d, n % d, d)

/-- The first grid, from coarse to fine, with a decimal next to the double that reads back; of two
such decimals the nearer one. -/
def shortestFrom (x : Double) (exponent : Int) : Nat → Nat × Int
  | 0 => ((x.below exponent).1, exponent)
  | fuel + 1 =>
    let (digits, excess, unit) := x.below exponent
    let lowReads := digits ≠ 0 && x.readsBack digits exponent
    let highReads := x.readsBack (digits + 1) exponent
    if lowReads && (!highReads || 2 * excess < unit || (2 * excess == unit && digits % 2 == 0)) then
      (digits, exponent)
    else if highReads then (digits + 1, exponent)
    else shortestFrom x (exponent - 1) fuel

/-- The fewest decimal digits that read back, with the power of ten by which they are scaled. -/
def shortest (x : Double) : Nat × Int :=
  if x.significand = 0 then (0, 0)
  else
    let (n, d) := x.ratio
    let magnitude : Int :=
      if d ≤ n then (Text.digitsOfNat (n / d)).length
      else 1 - (Text.digitsOfNat (d / n)).length
    x.shortestFrom (magnitude + 1) 400

end Double

namespace Decimal

/-- The decimal written with the fewest digits of the double nearest to it, unless it is too
large. -/
def toDouble? (x : Decimal) : Option Decimal :=
  (Double.nearest x.digits x.exponent).map fun y =>
    ⟨x.negative, y.shortest.1, y.shortest.2⟩

/-- Without zeros at the end of the digits, as far as `fuel` goes. -/
def dropZeros (digits : Nat) (exponent : Int) : Nat → Nat × Int
  | 0 => (digits, exponent)
  | fuel + 1 =>
    if digits ≠ 0 ∧ digits % 10 = 0 then dropZeros (digits / 10) (exponent + 1) fuel
    else (digits, exponent)

/-- The digits of a decimal, and the number of them before the point, which may be negative. -/
def places (x : Decimal) : List Char × Int :=
  if x.digits = 0 then (['0'], 1)
  else
    let (digits, exponent) := dropZeros x.digits x.exponent 400
    let text := Text.digitsOfNat digits
    (text, text.length + exponent)

/-- Positional notation with a point and at least one digit on either side of it. -/
def positional (text : List Char) (point : Int) : List Char :=
  if point ≤ 0 then '0' :: '.' :: (List.replicate (-point).toNat '0' ++ text)
  else if (text.length : Int) ≤ point then
    text ++ List.replicate (point.toNat - text.length) '0' ++ ['.', '0']
  else text.take point.toNat ++ '.' :: text.drop point.toNat

def sign (x : Decimal) : List Char := if x.negative then ['-'] else []

/-- The decimal in positional notation, whatever its size. -/
def plainText (x : Decimal) : List Char :=
  let (text, point) := x.places
  x.sign ++ positional text point

/-- The decimal with an exponent where positional notation would need more than sixteen digits
before the point or more than five zeros behind it. -/
def shortText (x : Decimal) : List Char :=
  let (text, point) := x.places
  if -5 < point ∧ point ≤ 16 then x.sign ++ positional text point
  else
    let mantissa :=
      match text with
      | [] => []
      | [c] => [c]
      | c :: rest => c :: '.' :: rest
    x.sign ++ mantissa ++ 'e' :: (toString (point - 1)).toList

end Decimal

end CertRenewal.Number
