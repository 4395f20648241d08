import CertRenewal.Certificate.Error

/-!
# DER elements

An element is a header, which holds a tag and a length, and as many bytes of content as the length
says. Only lengths in definite form are read. `element` cuts the first element off a list of bytes.
-/

namespace CertRenewal.Certificate.Der

/-- The header of an element. `cls` is the class of the tag: 0 for universal, 2 for
context-specific. -/
structure Header where
  cls : Nat
  constructed : Bool
  tag : Nat
  length : Nat
  deriving DecidableEq, Repr

/-- Reads the bytes of a long tag, seven bits each, up to one whose high bit is clear; `count` of
them have been read. -/
def longTag (count tag : Nat) : List UInt8 → Except DerError (Nat × List UInt8)
  | [] => .error .invalidTag
  | b :: rest =>
    if 5 ≤ count then .error .invalidTag
    else
      let tag := (tag * 128 + b.toNat % 128) % 4294967296
      if b < 0x80 then .ok (tag, rest) else longTag (count + 1) tag rest

def tagNumber (first : UInt8) (rest : List UInt8) : Except DerError (Nat × List UInt8) :=
  if first.toNat % 32 = 31 then longTag 0 0 rest else .ok (first.toNat % 32, rest)

/-- The number that bytes stand for, the most significant one first. -/
def natOfBytes (bytes : List UInt8) : Nat := bytes.foldl (fun n b => n * 256 + b.toNat) 0

/-- Reads a length: one byte below 128, or the number of the bytes that hold it and those bytes.
A length must fit 64 bits. -/
def lengthOf : List UInt8 → Except DerError (Nat × List UInt8)
  | [] => .error (.bytesNeeded 1)
  | b :: rest =>
    if b < 0x80 then .ok (b.toNat, rest)
    else if b = 0x80 then .error .indefiniteLength
    else if b = 0xFF then .error .invalidLength
    else
      let count := b.toNat - 128
      if rest.length < count then .error (.bytesNeeded (count - rest.length))
      else
        let length := natOfBytes (rest.take count)
        if length < 18446744073709551616 then .ok (length, rest.drop count)
        else .error .invalidLength

def header : List UInt8 → Except DerError (Header × List UInt8)
  | [] => .error (.bytesNeeded 1)
  | b :: rest => do
    let (tag, rest) ← tagNumber b rest
    let (length, rest) ← lengthOf rest
    return (⟨b.toNat / 64, b.toNat / 32 % 2 = 1, tag, length⟩, rest)

structure Element where
  header : Header
  content : List UInt8
  deriving DecidableEq, Repr

def element (bytes : List UInt8) : Except DerError (Element × List UInt8) := do
  let (h, rest) ← header bytes
  if rest.length < h.length then throw .endOfInput
  return (⟨h, rest.take h.length⟩, rest.drop h.length)

/-- Cuts off the first element, which must be a sequence, and gives its content. -/
def sequence (bytes : List UInt8) : Except DerError (List UInt8 × List UInt8) := do
  let (e, rest) ← element bytes
  if e.header.tag ≠ 16 then throw (.unexpectedTag e.header.tag)
  return (e.content, rest)

def trailingZeros (b : UInt8) : Nat :=
  ((List.range 8).find? fun i => b.toNat / Nat.pow 2 i % 2 = 1).getD 8

/-- Whether content is that of a bit string: a count of unused bits, then bytes that end with so
many zero bits. -/
def checkBits (e : Element) : Except DerError Unit :=
  if e.header.constructed then .error .constructedUnexpected
  else
    match e.content with
    | [] => .error .invalidLength
    | [unused] => if unused = 0 then .ok () else .error .invalidLength
    | unused :: bytes =>
      if trailingZeros (bytes.getLastD 0) < unused.toNat then .error .unusedBitsNotZero
      else .ok ()

def bitString (bytes : List UInt8) : Except DerError (List UInt8) := do
  let (e, rest) ← element bytes
  checkBits e
  if e.header.tag ≠ 3 then throw (.unexpectedTag e.header.tag)
  return rest

end CertRenewal.Certificate.Der
