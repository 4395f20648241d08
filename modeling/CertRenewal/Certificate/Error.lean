/-!
# Why a certificate cannot be read

The causes are those of the two layers: the PEM armour, and the DER encoding inside it. Both are
worded the way a parser reports them, either as a fault or as a number of missing bytes.
-/

namespace CertRenewal.Certificate

inductive PemError where
  | missingHeader
  | invalidHeader
  | incomplete
  | invalidBase64
  | invalidUtf8
  deriving DecidableEq, Repr

def PemError.message (e : PemError) : String :=
  "Parsing Error: " ++
    match e with
    | .missingHeader => "MissingHeader"
    | .invalidHeader => "InvalidHeader"
    | .incomplete => "IncompletePEM"
    | .invalidBase64 => "Base64DecodeError"
    | .invalidUtf8 =>
      "IOError(Error \x7b kind: InvalidData, message: \"stream did not contain valid UTF-8\" \x7d)"

inductive DerError where
  /-- The input ends where so many more bytes of a header are needed. -/
  | bytesNeeded (count : Nat)
  /-- A length runs past the end, or bytes are left over. -/
  | endOfInput
  | unexpectedTag (actual : Nat)
  | invalidTag
  | invalidLength
  | indefiniteLength
  | constructedUnexpected
  | unusedBitsNotZero
  | invalidVersion
  | invalidSerial
  | invalidAlgorithm
  | invalidDate
  | invalidPublicKey
  | invalidExtensions
  | invalidSignature
  deriving DecidableEq, Repr

def DerError.message : DerError → String
  | .bytesNeeded n => "Parsing requires " ++ toString n ++ " bytes/chars"
  | .endOfInput => "Parsing Error: NomError(Eof)"
  | .unexpectedTag actual =>
    "Parsing Error: Der(UnexpectedTag \x7b expected: Some(Tag(16)), actual: Tag(" ++
      toString actual ++ ") \x7d)"
  | .invalidTag => "Parsing Error: Der(InvalidTag)"
  | .invalidLength => "Parsing Error: Der(InvalidLength)"
  | .indefiniteLength => "Parsing Error: Der(DerConstraintFailed(IndefiniteLength))"
  | .constructedUnexpected => "Parsing Error: Der(ConstructUnexpected)"
  | .unusedBitsNotZero => "Parsing Error: Der(DerConstraintFailed(UnusedBitsNotZero))"
  | .invalidVersion => "Parsing Error: InvalidVersion"
  | .invalidSerial => "Parsing Error: InvalidSerial"
  | .invalidAlgorithm => "Parsing Error: InvalidAlgorithmIdentifier"
  | .invalidDate => "Parsing Error: InvalidDate"
  | .invalidPublicKey => "Parsing Error: InvalidSPKI"
  | .invalidExtensions => "Parsing Error: InvalidExtensions"
  | .invalidSignature => "Parsing Error: InvalidSignatureValue"

end CertRenewal.Certificate
