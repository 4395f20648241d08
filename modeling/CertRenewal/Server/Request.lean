import CertRenewal.Dialogue
import CertRenewal.Json.Basic

/-!
# Requests and responses

What the program sends to the server of the cluster, and what it gets back. A `Server.Dialogue` is a
computation that sends requests, so that it has a meaning for every server.
-/

namespace CertRenewal.Server

inductive Method where
  | get
  | post
  | patch
  | delete
  deriving DecidableEq, Repr

def Method.name : Method → String
  | .get => "GET"
  | .post => "POST"
  | .patch => "PATCH"
  | .delete => "DELETE"

/-- A document that is sent, and its type. -/
structure Content where
  type : String
  document : Json
  deriving Repr, BEq

structure Request where
  method : Method
  /-- The path and query. -/
  address : List Char
  content : Option Content
  deriving Repr, BEq

/-- A response: a status and the bytes of a document. -/
structure Response where
  status : Nat
  body : List UInt8
  deriving DecidableEq, Repr

abbrev Dialogue := CertRenewal.Dialogue Request fun _ => Response

def send (request : Request) : Dialogue Response := .call request

end CertRenewal.Server
