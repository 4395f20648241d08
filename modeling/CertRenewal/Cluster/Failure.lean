import CertRenewal.Text.Quoted
import CertRenewal.Text.Utf8

/-!
# Why a request to the cluster fails

A request may be refused by the server, its answer may not be readable, or the request cannot be
made because a name does not fit into an address.
-/

namespace CertRenewal.Cluster

/-- What a server says when it refuses a request. -/
structure Refusal where
  status : String
  message : String
  reason : String
  code : Nat
  deriving DecidableEq, Repr

def Refusal.text (r : Refusal) : String :=
  "ApiError: " ++ r.message ++ ": " ++ r.reason ++ " (ErrorResponse \x7b status: " ++
    Text.quote r.status ++ ", message: " ++ Text.quote r.message ++ ", reason: " ++
    Text.quote r.reason ++ ", code: " ++ toString r.code ++ " \x7d)"

inductive AddressError where
  | invalidCharacter
  | tooLong
  deriving DecidableEq, Repr

def AddressError.message : AddressError → String
  | .invalidCharacter => "invalid uri character"
  | .tooLong => "uri too long"

/-- Why a request has no result. -/
inductive Failure where
  | refused (refusal : Refusal)
  /-- The answer is not what was asked for. -/
  | unreadable
  /-- The answer is no text. -/
  | notText (fault : Text.Utf8.Fault)
  /-- The request cannot be addressed. -/
  | address (cause : AddressError)
  deriving DecidableEq, Repr

def Failure.message : Failure → String
  | .refused refusal => refusal.text
  | .unreadable => "Error deserializing response"
  | .notText fault => "UTF-8 Error: " ++ fault.message
  | .address cause => "Failed to build request: failed to build request: " ++ cause.message

def Failure.notFound (name : String) : Failure :=
  .refused ⟨"Failure", name ++ " not found", "NotFound", 404⟩

end CertRenewal.Cluster
