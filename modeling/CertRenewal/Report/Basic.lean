import CertRenewal.Calendar
import CertRenewal.Json.Basic

/-!
# The expiry report

The certificates that expire soon, grouped by the secret or node in which they were found. As a
document the report is an object of three lists; an empty list is left out.
-/

namespace CertRenewal

namespace Report

/-- A certificate that expires soon. -/
structure Certificate where
  name : String
  expiry : Instant
  deriving DecidableEq, Repr

/-- A certificate of a cluster or user entry of a kubeconfig. -/
structure EntryCertificate where
  /-- The name of the entry. -/
  entry : String
  name : String
  expiry : Instant
  deriving DecidableEq, Repr

structure TlsSecret where
  name : String
  namespace_ : String
  certificates : List Certificate
  deriving DecidableEq, Repr

structure KubeconfigSecret where
  name : String
  namespace_ : String
  clusters : List EntryCertificate
  users : List EntryCertificate
  deriving DecidableEq, Repr

structure NodeCertificates where
  name : String
  certificates : List Certificate
  deriving DecidableEq, Repr

end Report

/-- Every certificate that expires soon, by where it was found. -/
structure Report where
  tlsSecrets : List Report.TlsSecret
  kubeconfigs : List Report.KubeconfigSecret
  nodes : List Report.NodeCertificates
  deriving DecidableEq, Repr

namespace Report

def isEmpty (r : Report) : Bool :=
  r.tlsSecrets.isEmpty && r.kubeconfigs.isEmpty && r.nodes.isEmpty

def dateJson (t : Instant) : Json := .string (String.ofList t.rfc3339Text)

def Certificate.toJson (c : Certificate) : Json :=
  .object [("CertificateName", .string c.name), ("ExpiryDate", dateJson c.expiry)]

def EntryCertificate.toJson (c : EntryCertificate) : Json :=
  .object
    [("Name", .string c.entry), ("CertificateName", .string c.name),
      ("ExpiryDate", dateJson c.expiry)]

/-- A field that is left out when its list is empty. -/
def listField (key : String) (items : List Json) : Json.Fields :=
  if items.isEmpty then [] else [(key, .array items)]

def TlsSecret.toJson (s : TlsSecret) : Json :=
  .object
    [("SecretName", .string s.name), ("SecretNamespace", .string s.namespace_),
      ("Data", .array (s.certificates.map Certificate.toJson))]

def KubeconfigSecret.toJson (s : KubeconfigSecret) : Json :=
  .object
    ([("SecretName", .string s.name), ("SecretNamespace", .string s.namespace_)] ++
      listField "Cluster" (s.clusters.map EntryCertificate.toJson) ++
      listField "User" (s.users.map EntryCertificate.toJson))

def NodeCertificates.toJson (n : NodeCertificates) : Json :=
  .object
    [("NodeName", .string n.name), ("Data", .array (n.certificates.map Certificate.toJson))]

def toJson (r : Report) : Json :=
  .object
    (listField "TlsSecret" (r.tlsSecrets.map TlsSecret.toJson) ++
      listField "Kubeconf" (r.kubeconfigs.map KubeconfigSecret.toJson) ++
      listField "NodeCert" (r.nodes.map NodeCertificates.toJson))

end Report

end CertRenewal
