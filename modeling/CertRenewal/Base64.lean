/-!
# Base64

The standard alphabet, with padding. Symbols are taken four at a time, and four symbols of six bits
give three bytes. Two readers share the alphabet:

* `decode` reads one encoded value, where padding may stand at the end only, and names the symbol
  at fault;
* `decodeGroups` reads a sequence of groups, each of which may be padded by itself, and only says
  whether it can be read.

Both refuse unused bits that are not zero, so that a value has one written form.
-/

namespace CertRenewal.Base64

/-- The byte of the padding symbol `=`. -/
def pad : UInt8 := 61

/-- The six bits of a symbol. -/
def value? (b : UInt8) : Option Nat :=
  let n := b.toNat
  if 65 ≤ n ∧ n ≤ 90 then some (n - 65)
  else if 97 ≤ n ∧ n ≤ 122 then some (n - 71)
  else if 48 ≤ n ∧ n ≤ 57 then some (n + 4)
  else if n = 43 then some 62
  else if n = 47 then some 63
  else none

def symbol (v : Nat) : UInt8 :=
  if v < 26 then (v + 65).toUInt8
  else if v < 52 then (v + 71).toUInt8
  else if v < 62 then (v - 4).toUInt8
  else if v = 62 then 43
  else 47

def threeBytes (v w x y : Nat) : List UInt8 :=
  [(v * 4 + w / 16).toUInt8, (w % 16 * 16 + x / 4).toUInt8, (x % 4 * 64 + y).toUInt8]

/-- The two bytes of three symbols, whose last two bits are unused. -/
def twoBytes (v w x : Nat) : List UInt8 :=
  [(v * 4 + w / 16).toUInt8, (w % 16 * 16 + x / 4).toUInt8]

/-- The byte of two symbols, whose last four bits are unused. -/
def oneByte (v w : Nat) : List UInt8 := [(v * 4 + w / 16).toUInt8]

def encode : List UInt8 → List UInt8
  | [] => []
  | [a] => [symbol (a.toNat / 4), symbol (a.toNat % 4 * 16), pad, pad]
  | [a, b] =>
    [symbol (a.toNat / 4), symbol (a.toNat % 4 * 16 + b.toNat / 16),
      symbol (b.toNat % 16 * 4), pad]
  | a :: b :: c :: rest =>
    symbol (a.toNat / 4) :: symbol (a.toNat % 4 * 16 + b.toNat / 16) ::
      symbol (b.toNat % 16 * 4 + c.toNat / 64) :: symbol (c.toNat % 64) :: encode rest

/-! ## One encoded value -/

inductive Error where
  | invalidSymbol (byte : UInt8) (offset : Nat)
  | invalidLength (symbols : Nat)
  | invalidLastSymbol (byte : UInt8) (offset : Nat)
  | invalidPadding
  deriving DecidableEq, Repr

def Error.message : Error → String
  | .invalidSymbol byte offset =>
    "Invalid symbol " ++ toString byte.toNat ++ ", offset " ++ toString offset ++ "."
  | .invalidLength n => "Invalid input length: " ++ toString n
  | .invalidLastSymbol byte offset =>
    "Invalid last symbol " ++ toString byte.toNat ++ ", offset " ++ toString offset ++ "."
  | .invalidPadding => "Invalid padding"

def valueAt (byte : UInt8) (offset : Nat) : Except Error Nat :=
  match value? byte with
  | some v => .ok v
  | none => .error (.invalidSymbol byte offset)

/-- Reads the symbols of the last group. `symbols` are those before, `padding` is the number of
padding symbols before and `firstPadding` the offset of the first of them. Padding may follow two
symbols at the earliest, and nothing but padding may follow it. -/
def lastGroupSymbols (offset : Nat) (symbols : List (UInt8 × Nat)) (padding firstPadding : Nat) :
    List UInt8 → Except Error (List (UInt8 × Nat) × Nat)
  | [] => .ok (symbols, padding)
  | b :: rest =>
    if b = pad then
      if symbols.length + padding < 2 then .error (.invalidSymbol b offset)
      else
        lastGroupSymbols (offset + 1) symbols (padding + 1)
          (if padding = 0 then offset else firstPadding) rest
    else if padding ≠ 0 then .error (.invalidSymbol pad firstPadding)
    else
      match valueAt b offset with
      | .error e => .error e
      | .ok v => lastGroupSymbols (offset + 1) (symbols ++ [(b, v)]) padding firstPadding rest

/-- The bytes of the last group, which starts at an offset: two, three or four symbols, and padding
to make up four. -/
def lastGroup (offset : Nat) (group : List UInt8) : Except Error (List UInt8) := do
  let (symbols, padding) ← lastGroupSymbols offset [] 0 0 group
  let full : Except Error Unit :=
    if (symbols.length + padding) % 4 = 0 then .ok () else .error .invalidPadding
  match symbols with
  | [] | [_] => .error (.invalidLength (offset + symbols.length))
  | [(_, v), (b, w)] =>
    full
    if w % 16 = 0 then .ok (oneByte v w) else .error (.invalidLastSymbol b (offset + 1))
  | [(_, v), (_, w), (b, x)] =>
    full
    if x % 4 = 0 then .ok (twoBytes v w x) else .error (.invalidLastSymbol b (offset + 2))
  | (_, v) :: (_, w) :: (_, x) :: (_, y) :: _ => .ok (threeBytes v w x y)

/-- Reads the groups from an offset on; a group that is not the last one has four symbols. -/
def decodeFrom (offset : Nat) : List UInt8 → Except Error (List UInt8)
  | [] => .ok []
  | a :: b :: c :: d :: e :: rest => do
    let v ← valueAt a offset
    let w ← valueAt b (offset + 1)
    let x ← valueAt c (offset + 2)
    let y ← valueAt d (offset + 3)
    return threeBytes v w x y ++ (← decodeFrom (offset + 4) (e :: rest))
  | group => lastGroup offset group

/-- The bytes of one encoded value. A stray symbol after the last whole group is named first when
it belongs to no alphabet. -/
def decode (bytes : List UInt8) : Except Error (List UInt8) :=
  match bytes.getLast? with
  | some last =>
    if bytes.length % 4 = 1 ∧ last ≠ pad ∧ value? last = none then
      .error (.invalidSymbol last (bytes.length - 1))
    else decodeFrom 0 bytes
  | none => .ok []

/-! ## A sequence of groups -/

/-- The bytes of one group of four symbols, the last one or two of which may be padding. -/
def group? (a b c d : UInt8) : Option (List UInt8) := do
  let v ← value? a
  let w ← value? b
  if c = pad then
    if d = pad ∧ w % 16 = 0 then some (oneByte v w) else none
  else
    let x ← value? c
    if d = pad then
      if x % 4 = 0 then some (twoBytes v w x) else none
    else
      let y ← value? d
      some (threeBytes v w x y)

def decodeGroups : List UInt8 → Option (List UInt8)
  | [] => some []
  | a :: b :: c :: d :: rest => do
    let bytes ← group? a b c d
    return bytes ++ (← decodeGroups rest)
  | _ => none

end CertRenewal.Base64
