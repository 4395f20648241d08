import CertRenewal.Certificate.Pem
import CertRenewal.Certificate.Time

/-!
# When a certificate expires

The parts of an X.509 certificate stand in a fixed order; the reader walks over those in front of
the validity and checks the shape of those behind it. The end of the validity is what it gives.
What names, extensions and keys hold is not looked at.
-/

namespace CertRenewal.Certificate

/-! ## The parts of a certificate -/

/-- Content that is an unsigned integer of 32 bits in its shortest form. -/
def isVersion (e : Der.Element) : Bool :=
  !e.header.constructed && e.header.tag == 2 &&
    match e.content with
    | [] => false
    | [b] => b < 0x80
    | b :: c :: _ =>
      b < 0x80 && !(b == 0 && c < 0x80) && Der.natOfBytes e.content < 4294967296

def dropVersion (bytes : List UInt8) : Except DerError (List UInt8) :=
  if bytes = [] then .ok []
  else do
    let (e, rest) ← Der.element bytes
    if e.header.cls = 2 ∧ e.header.tag = 0 then
      match Der.element e.content with
      | .ok (version, _) => if isVersion version then return rest else throw .invalidVersion
      | .error _ => throw .invalidVersion
    else return bytes

def dropSerial (bytes : List UInt8) : Except DerError (List UInt8) :=
  match Der.element bytes with
  | .ok (e, rest) => if e.header.tag = 2 then .ok rest else .error .invalidSerial
  | .error _ => .error .invalidSerial

/-- Cuts off an object identifier; only that its content is primitive is checked. -/
def dropIdentifier (bytes : List UInt8) : Except DerError (List UInt8) :=
  match Der.element bytes with
  | .ok (e, rest) => if e.header.constructed then .error .constructedUnexpected else .ok rest
  | .error e => .error e

def dropAlgorithm (bytes : List UInt8) : Except DerError (List UInt8) := do
  let (content, rest) ← Der.sequence bytes
  match dropIdentifier content with
  | .error (.bytesNeeded n) => throw (.bytesNeeded n)
  | .error _ => throw .invalidAlgorithm
  | .ok parameters =>
    if (Der.header parameters).isOk then
      let _ ← Der.element parameters
      return rest
    else return rest

def dropName (bytes : List UInt8) : Except DerError (List UInt8) :=
  (Der.sequence bytes).map (·.2)

/-- Reads the validity, and gives the second of its two times. -/
def validityEnd (bytes : List UInt8) : Except DerError (Int × List UInt8) := do
  let (content, rest) ← Der.sequence bytes
  let (_, content) ← Time.read content
  let (notAfter, _) ← Time.read content
  return (notAfter, rest)

/-- Passes over the public key: a sequence of an algorithm and a bit string. -/
def dropPublicKey (bytes : List UInt8) : Except DerError (List UInt8) := do
  let (content, rest) ← Der.sequence bytes
  let content ← dropAlgorithm content
  match Der.bitString content with
  | .ok _ => return rest
  | .error _ => throw .invalidPublicKey

/-- Passes over a bit string with a context-specific tag, which may be missing. -/
def dropUniqueId (tag : Nat) (bytes : List UInt8) : Except DerError (List UInt8) :=
  match Der.header bytes with
  | .error _ => .ok bytes
  | .ok (h, _) =>
    if h.cls = 2 ∧ h.tag = tag then do
      let (e, rest) ← Der.element bytes
      Der.checkBits e
      return rest
    else .ok bytes

/-- Passes over a Boolean, which may be missing. -/
def dropCritical (bytes : List UInt8) : Except DerError (List UInt8) := do
  let (e, rest) ← Der.element bytes
  if e.header.tag = 1 ∧ e.content.length = 1 then return rest else return bytes

/-- Whether an element is an extension: a sequence of an identifier, an optional Boolean and an
octet string. -/
def isExtension (e : Der.Element) : Bool :=
  e.header.tag == 16 &&
    match (do
      let content ← dropIdentifier e.content
      let content ← dropCritical content
      Der.element content) with
    | .ok (value, _) => value.header.tag == 4 && !value.header.constructed
    | .error _ => false

/-- Whether bytes are extensions to their end. At most `fuel` are read; each takes two bytes or
more, so that their number is bounded by the number of the bytes. -/
def areExtensions (fuel : Nat) (bytes : List UInt8) : Bool :=
  match fuel, bytes with
  | _, [] => true
  | 0, _ => false
  | fuel + 1, bytes =>
    match Der.element bytes with
    | .ok (e, rest) => isExtension e && areExtensions fuel rest
    | .error _ => false

/-- Checks the extensions, which may be missing and end the certificate's body. -/
def checkExtensions (bytes : List UInt8) : Except DerError Unit :=
  if bytes = [] then .ok ()
  else
    match Der.header bytes with
    | .error _ => .error .invalidExtensions
    | .ok (h, inner) =>
      if h.tag ≠ 3 then .error .invalidExtensions
      else do
        let (content, rest) ← Der.sequence inner
        if areExtensions content.length content ∧ rest = [] then return ()
        else throw .endOfInput

/-- Reads the body of a certificate, which is what is signed. -/
def bodyNotAfter (bytes : List UInt8) : Except DerError Int := do
  let bytes ← dropVersion bytes
  let bytes ← dropSerial bytes
  let bytes ← dropAlgorithm bytes
  let bytes ← dropName bytes
  let (notAfter, bytes) ← validityEnd bytes
  let bytes ← dropName bytes
  let bytes ← dropPublicKey bytes
  let bytes ← dropUniqueId 1 bytes
  let bytes ← dropUniqueId 2 bytes
  checkExtensions bytes
  return notAfter

/-- The seconds at which a certificate expires, read from its DER encoding. Bytes behind the
certificate are not looked at. -/
def derNotAfter (bytes : List UInt8) : Except DerError Int := do
  let (certificate, _) ← Der.sequence bytes
  let (body, certificate) ← Der.sequence certificate
  let notAfter ← bodyNotAfter body
  let certificate ← dropAlgorithm certificate
  match Der.bitString certificate with
  | .ok _ => return notAfter
  | .error _ => throw .invalidSignature

/-! ## The instant -/

inductive Error where
  | pem (cause : PemError)
  | der (cause : DerError)
  /-- The date lies outside the years that the calendar covers. -/
  | date
  deriving DecidableEq, Repr

/-- The instant at which the first certificate of a PEM text expires. -/
def notAfter (pem : List UInt8) : Except Error Instant :=
  match Pem.read pem with
  | .error e => .error (.pem e)
  | .ok der =>
    match derNotAfter der with
    | .error e => .error (.der e)
    | .ok seconds =>
      if Instant.isSupported seconds then .ok (Instant.ofSeconds seconds) else .error .date

end CertRenewal.Certificate
