import CertRenewal.Json.Printer
import CertRenewal.Server.Request
import CertRenewal.Text.Blank
import CertRenewal.Text.Integer
import CertRenewal.Text.Split
import CertRenewal.Text.Utf8

/-!
# Messages on the wire

A message is a first line, lines of headers, an empty line, and a body. Requests are written with
the length of their body and ask the server to close the connection behind the response, so that a
response is all that the server sends.
-/

namespace CertRenewal.Server

def lineBreak : List Char := ['\x0d', '\n']

def header (name : String) (value : List Char) : List Char :=
  name.toList ++ ": ".toList ++ value ++ lineBreak

/-- Where requests go, and with which token. -/
structure Target where
  /-- The part of the URL that names the server. -/
  host : List Char
  /-- The path below which the addresses lie. -/
  basePath : List Char
  token : Option String
  deriving DecidableEq, Repr

def Request.bytes (t : Target) (r : Request) : List UInt8 :=
  let body := (r.content.map fun c => Text.Utf8.encode c.document.render).getD []
  let head :=
    r.method.name.toList ++ ' ' :: (t.basePath ++ r.address) ++ " HTTP/1.1".toList ++ lineBreak ++
      header "host" t.host ++ header "accept" "application/json".toList ++
      header "connection" "close".toList ++
      ((t.token.map fun token => header "authorization" ("Bearer " ++ token).toList).getD []) ++
      ((r.content.map fun c => header "content-type" c.type.toList).getD []) ++
      header "content-length" (Text.digitsOfNat body.length) ++ lineBreak
  Text.Utf8.encode head ++ body

/-! ## Responses -/

/-- The bytes before and behind the empty line that ends the headers. -/
def splitHead : List UInt8 → Option (List UInt8 × List UInt8)
  | 13 :: 10 :: 13 :: 10 :: body => some ([], body)
  | b :: rest => (splitHead rest).map fun (head, body) => (b :: head, body)
  | [] => none

/-- The bytes before and behind the end of a line. -/
def splitLine : List UInt8 → Option (List UInt8 × List UInt8)
  | 13 :: 10 :: rest => some ([], rest)
  | b :: rest => (splitLine rest).map fun (line, rest) => (b :: line, rest)
  | [] => none

/-- The value of a header among lines. The case of a name does not matter. -/
def headerValue? (name : String) (lines : List (List Char)) : Option (List Char) :=
  lines.findSome? fun line =>
    match Text.cut ':' line with
    | some (key, value) =>
      if key.map Char.toLower = name.toList then some (Text.trim value) else none
    | none => none

/-- The number of hexadecimal digits, up to the first other character. -/
def hexNumber (s : List Char) : Nat :=
  (s.map Char.toLower).takeWhile (fun c => "0123456789abcdef".toList.contains c) |>.foldl
    (fun n c => n * 16 + "0123456789abcdef".toList.idxOf c) 0

/-- The body whose chunks are given. Each chunk has a line with its length, so that a fuel of the
number of bytes is enough. -/
def joinChunks : Nat → List UInt8 → List UInt8
  | 0, _ => []
  | fuel + 1, bytes =>
    match splitLine bytes with
    | none => []
    | some (line, rest) =>
      match hexNumber (Text.Utf8.decodeLossy line) with
      | 0 => []
      | n => rest.take n ++ joinChunks fuel (rest.drop (n + 2))

/-- Reads all that a server has sent as a response. -/
def Response.ofBytes? (bytes : List UInt8) : Option Response := do
  let (head, body) ← splitHead bytes
  let lines := Text.splitOn lineBreak (Text.Utf8.decodeLossy head)
  let status :: headers := lines | none
  let (_, rest) ← Text.cut ' ' status
  let digits := rest.takeWhile Text.isDigit
  if digits.isEmpty then none
  let isChunked := headerValue? "transfer-encoding" headers == some "chunked".toList
  let length? := (headerValue? "content-length" headers).map Text.natOfDigits
  let body :=
    if isChunked then joinChunks body.length body
    else match length? with
      | some n => body.take n
      | none => body
  return ⟨Text.natOfDigits digits, body⟩

end CertRenewal.Server
