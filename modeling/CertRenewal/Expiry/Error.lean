import CertRenewal.Certificate.NotAfter
import CertRenewal.Expiry.Annotations
import CertRenewal.Inventory.Client

/-!
# Why an expiry check fails

Each error says where the certificate was found that it is about. The text of an error in a
kubeconfig is not part of the message; a mark stands in its place.
-/

namespace CertRenewal.Expiry

/-- The annotation of a node that holds expiry dates. -/
def annotationKey : String := "cert-expiration"

inductive Error where
  | inventory (cause : Inventory.Error)
  | certificate (origin : String) (cause : Certificate.Error)
  | certificateData (origin : String) (cause : Base64.Error)
  | missingKubeconfig (namespace_ name : String)
  | kubeconfig (namespace_ name : String)
  | annotations (node : String) (cause : Annotations.Error)
  deriving DecidableEq, Repr

def certificateMessage (origin : String) : Certificate.Error → String
  | .pem cause => "Failed to parse certificate PEM in " ++ origin ++ ": " ++ cause.message
  | .der cause => "Failed to parse certificate in " ++ origin ++ ": " ++ cause.message
  | .date => "Certificate in " ++ origin ++ " has an out-of-range expiry date."

def annotationMessage (node : String) : Annotations.Error → String
  | .entry text =>
    "Malformed '" ++ annotationKey ++ "' annotation entry '" ++ text ++ "' on Node '" ++ node ++
      "'."
  | .date certificate text cause =>
    "Unable to parse expiry date '" ++ text ++ "' of '" ++ certificate ++ "' on Node '" ++ node ++
      "': '" ++ cause.message ++ "'"

def Error.message : Error → String
  | .inventory cause => "Unable to read cluster state: '" ++ cause.message ++ "'"
  | .certificate origin cause => certificateMessage origin cause
  | .certificateData origin cause =>
    "Unable to decode base64 certificate data in " ++ origin ++ ": '" ++ cause.message ++ "'"
  | .missingKubeconfig namespace_ name =>
    "Secret '" ++ namespace_ ++ "/" ++ name ++ "' has no kubeconfig under 'value'."
  | .kubeconfig namespace_ name =>
    "Unable to parse kubeconfig in Secret '" ++ namespace_ ++ "/" ++ name ++ "': '<yaml>'"
  | .annotations node cause => annotationMessage node cause

/-- A threshold that is no whole number of days. -/
structure InvalidThreshold where
  text : String
  cause : Text.Integer.Error
  deriving DecidableEq, Repr

def InvalidThreshold.message (e : InvalidThreshold) : String :=
  "Invalid expiry duration '" ++ e.text ++ "', expected a whole number of days: '" ++
    e.cause.message ++ "'"

end CertRenewal.Expiry
