import CertRenewal.Base64
import CertRenewal.Certificate.Error
import CertRenewal.Text.Blank
import CertRenewal.Text.Split
import CertRenewal.Text.Utf8

/-!
# PEM blocks

A PEM block starts with a line `-----BEGIN <label>-----` and ends with a line that starts with
`-----END `. Between the two stand bytes in base64, broken into lines. Lines before the block are
passed over, and nothing behind it is looked at, not even whether it is text.
-/

namespace CertRenewal.Certificate.Pem

/-- The lines of a text; a line ends with a line feed, which the last one may lack. -/
def lines : List UInt8 → List (List UInt8)
  | [] => []
  | b :: rest =>
    if b = 10 then [] :: lines rest
    else
      match rest with
      | [] => [[b]]
      | _ => Text.consHead b (lines rest)

def beginMark : List Char := "-----BEGIN ".toList

def endMark : List Char := "-----END ".toList

def lineText (line : List UInt8) : Except PemError (List Char) :=
  match Text.Utf8.decode line with
  | .ok text => .ok text
  | .error _ => .error .invalidUtf8

/-- Reads the lines of a block up to its end; `symbols` holds the base64 text of those before. -/
def readBody (symbols : List Char) : List (List UInt8) → Except PemError (List UInt8)
  | [] => .error .incomplete
  | line :: rest => do
    let text ← lineText line
    if endMark.isPrefixOf text then
      match Base64.decodeGroups (Text.Utf8.encode symbols) with
      | some bytes => return bytes
      | none => throw .invalidBase64
    else readBody (symbols ++ Text.trimEnd text) rest

/-- Reads lines up to the first that begins a block, and then the block. -/
def readLines : List (List UInt8) → Except PemError (List UInt8)
  | [] => .error .missingHeader
  | line :: rest => do
    let text ← lineText line
    if beginMark.isPrefixOf text then
      if (Text.splitOn "-----".toList text).length < 3 then throw .invalidHeader
      else readBody [] rest
    else readLines rest

def read (bytes : List UInt8) : Except PemError (List UInt8) := readLines (lines bytes)

end CertRenewal.Certificate.Pem
