/-!
# UTF-8

Bytes are read as text character by character. Where the bytes stop being UTF-8, `decode` says at
which byte and how many bytes belong to the broken character: all that could have been the start
of a character, and none that rules it out. `decodeLossy` puts a replacement character in the place
of each fault and reads on behind it.
-/

namespace CertRenewal.Text.Utf8

def width (c : Char) : Nat :=
  let n := c.toNat
  if n < 0x80 then 1 else if n < 0x800 then 2 else if n < 0x10000 then 3 else 4

def encodeChar (c : Char) : List UInt8 :=
  let n := c.toNat
  if n < 0x80 then [n.toUInt8]
  else if n < 0x800 then [(0xC0 + n / 64).toUInt8, (0x80 + n % 64).toUInt8]
  else if n < 0x10000 then
    [(0xE0 + n / 4096).toUInt8, (0x80 + n / 64 % 64).toUInt8, (0x80 + n % 64).toUInt8]
  else
    [(0xF0 + n / 262144).toUInt8, (0x80 + n / 4096 % 64).toUInt8, (0x80 + n / 64 % 64).toUInt8,
      (0x80 + n % 64).toUInt8]

def encode (s : List Char) : List UInt8 := s.flatMap encodeChar

def size : List Char → Nat
  | [] => 0
  | c :: rest => width c + size rest

/-- Bytes that are no UTF-8: the broken character starts at `offset`. `length` is the number of its
bytes, or `none` when the input ends inside it. -/
structure Fault where
  offset : Nat
  length : Option Nat
  deriving DecidableEq, Repr

def Fault.message (f : Fault) : String :=
  match f.length with
  | some n =>
    "invalid utf-8 sequence of " ++ toString n ++ " bytes from index " ++ toString f.offset
  | none => "incomplete utf-8 byte sequence from index " ++ toString f.offset

/-- What the front of a byte list holds: a character and the number of its bytes, or a fault of
`length` bytes, which is `none` when the list ends inside a character. -/
inductive Front where
  | character (c : Char) (width : Nat)
  | fault (length : Option Nat)

def isTail (b : UInt8) : Bool := 0x80 ≤ b && b ≤ 0xBF

/-- The six low bits of a continuing byte. -/
def tailBits (b : UInt8) : Nat := b.toNat % 64

/-- Reads the bytes after the second one of a three-byte character whose first two bytes give
`high`. -/
def frontOfThree (high : Nat) : List UInt8 → Front
  | [] => .fault none
  | c :: _ =>
    if isTail c then .character (Char.ofNat (high * 64 + tailBits c)) 3 else .fault (some 2)

/-- Reads the bytes after the second one of a four-byte character whose first two bytes give
`high`. -/
def frontOfFour (high : Nat) : List UInt8 → Front
  | [] => .fault none
  | c :: rest =>
    if isTail c then
      match rest with
      | [] => .fault none
      | d :: _ =>
        if isTail d then .character (Char.ofNat ((high * 64 + tailBits c) * 64 + tailBits d)) 4
        else .fault (some 3)
    else .fault (some 2)

/-- Reads the character in front of the bytes `first :: rest`. The second byte of a long character
has a narrower range where the character would be one that fewer bytes can hold, a surrogate, or
beyond the last code point. -/
def front (first : UInt8) (rest : List UInt8) : Front :=
  if first < 0x80 then .character (Char.ofNat first.toNat) 1
  else if 0xC2 ≤ first && first ≤ 0xDF then
    match rest with
    | [] => .fault none
    | b :: _ =>
      if isTail b then .character (Char.ofNat ((first.toNat - 0xC0) * 64 + tailBits b)) 2
      else .fault (some 1)
  else if 0xE0 ≤ first && first ≤ 0xEF then
    let least : UInt8 := if first = 0xE0 then 0xA0 else 0x80
    let greatest : UInt8 := if first = 0xED then 0x9F else 0xBF
    match rest with
    | [] => .fault none
    | b :: rest =>
      if least ≤ b && b ≤ greatest then
        frontOfThree ((first.toNat - 0xE0) * 64 + tailBits b) rest
      else .fault (some 1)
  else if 0xF0 ≤ first && first ≤ 0xF4 then
    let least : UInt8 := if first = 0xF0 then 0x90 else 0x80
    let greatest : UInt8 := if first = 0xF4 then 0x8F else 0xBF
    match rest with
    | [] => .fault none
    | b :: rest =>
      if least ≤ b && b ≤ greatest then
        frontOfFour ((first.toNat - 0xF0) * 64 + tailBits b) rest
      else .fault (some 1)
  else .fault (some 1)

/-- Reads bytes as text, passing over the first `skip` of them, which an earlier character has
used. `offset` is the position of the first byte. -/
def decodeFrom (offset skip : Nat) : List UInt8 → Except Fault (List Char)
  | [] => .ok []
  | b :: rest =>
    match skip with
    | k + 1 => decodeFrom (offset + 1) k rest
    | 0 =>
      match front b rest with
      | .character c width => (decodeFrom (offset + 1) (width - 1) rest).map (c :: ·)
      | .fault length => .error ⟨offset, length⟩

def decode (bytes : List UInt8) : Except Fault (List Char) := decodeFrom 0 0 bytes

/-- Reads bytes as text with a replacement character for each fault, passing over the first
`skip` bytes. -/
def decodeLossyFrom (skip : Nat) : List UInt8 → List Char
  | [] => []
  | b :: rest =>
    match skip with
    | k + 1 => decodeLossyFrom k rest
    | 0 =>
      match front b rest with
      | .character c width => c :: decodeLossyFrom (width - 1) rest
      | .fault (some length) => '\ufffd' :: decodeLossyFrom (length - 1) rest
      | .fault none => ['\ufffd']

/-- The text that bytes stand for, with U+FFFD in the place of each fault. -/
def decodeLossy (bytes : List UInt8) : List Char := decodeLossyFrom 0 bytes

end CertRenewal.Text.Utf8
