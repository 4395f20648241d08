import CertRenewal.Cluster.Failure

/-!
# Addresses of requests

The address of a request is a path and, behind a question mark, a query. Names are put into the path
as they are, so that a text need not be an address: `Address.ofText` refuses characters that have no
place in one, and cuts off what follows a number sign.
-/

namespace CertRenewal.Server

open CertRenewal.Cluster (AddressError)

namespace Address

/-- The characters that can be seen, save the space, of the first 128. -/
def isVisible (c : Char) : Bool := 0x21 ≤ c.toNat && c.toNat ≤ 0x7E

def isPathChar (c : Char) : Bool := isVisible c && !"#<>?`".toList.contains c

def isQueryChar (c : Char) : Bool := isVisible c && !"#<>\x22".toList.contains c

/-- The greatest number of bytes of a text. -/
def maxSize : Nat := 65534

/-- Whether a text is a path, and a query if there is one. -/
def isWellFormed (s : List Char) : Bool :=
  (s.takeWhile (· != '?')).all isPathChar && ((s.dropWhile (· != '?')).drop 1).all isQueryChar

def ofText (s : List Char) : Except AddressError (List Char) :=
  let address := s.takeWhile (· != '#')
  if maxSize < Text.Utf8.size s then .error .tooLong
  else if isWellFormed address then .ok address
  else .error .invalidCharacter

def path (address : List Char) : List Char := address.takeWhile (· != '?')

/-! ## Queries -/

/-- The upper-case digit of a number below sixteen. -/
def hexDigit (n : Nat) : Char := Char.ofNat (if n < 10 then 48 + n else 55 + n)

/-- A byte in a query. Letters, digits and four marks stand for themselves, a space becomes a plus
sign, and any other byte is written as two digits behind a percent sign. -/
def encodeByte (b : UInt8) : List Char :=
  let c := Char.ofNat b.toNat
  if c.isAlphanum || "*-._".toList.contains c then [c]
  else if c = ' ' then ['+']
  else ['%', hexDigit (b.toNat / 16), hexDigit (b.toNat % 16)]

/-- A text in a query. -/
def encode (s : List Char) : List Char := (Text.Utf8.encode s).flatMap encodeByte

/-- A parameter behind those that the query has already. -/
def parameter (key : String) (value : String) : List Char :=
  '&' :: (encode key.toList ++ '=' :: encode value.toList)

end Address

end CertRenewal.Server
