import CertRenewal.Expiry.Error
import CertRenewal.Expiry.Threshold
import CertRenewal.Kubeconfig
import CertRenewal.Machines.Reference
import CertRenewal.Report.Basic

/-!
# The expiry check

Certificates are looked for in TLS secrets, in the kubeconfigs of control planes, and in the
annotations of nodes, in this order. Those that expire soon are put into a report; a source in which
none does is left out. The first error ends the check.
-/

namespace CertRenewal.Expiry

open CertRenewal.Cluster (Secret Node)

/-- The results of a list that there are, or the first error. -/
def collect (f : α → Except ε (Option β)) : List α → Except ε (List β)
  | [] => .ok []
  | a :: rest => do
    let b ← f a
    let more ← collect f rest
    return b.toList ++ more

def certificateExpiry (origin : String) (pem : List UInt8) : Except Error Instant :=
  (Certificate.notAfter pem).mapError (.certificate origin)

/-- A threshold and the instant from which it counts. -/
structure Deadline where
  threshold : Threshold
  now : Instant
  deriving DecidableEq, Repr

def Deadline.reports (d : Deadline) (notAfter : Instant) : Bool :=
  d.threshold.expiresSoon notAfter d.now

/-! ## TLS secrets -/

def tlsType : String := "kubernetes.io/tls"

/-- The keys under which a TLS secret holds certificates. -/
def tlsKeys : List String := ["tls.crt", "ca.crt"]

/-- A secret, for messages. -/
def secretOrigin (namespace_ name : String) : String :=
  "Secret '" ++ namespace_ ++ "/" ++ name ++ "'"

/-- The certificate under a key of a secret, if it is there and to be reported. -/
def tlsCertificate (d : Deadline) (origin : String) (secret : Secret) (key : String) :
    Except Error (Option Report.Certificate) :=
  match secret.get? key with
  | none => .ok none
  | some pem => do
    let notAfter ← certificateExpiry (origin ++ " key '" ++ key ++ "'") pem
    return if d.reports notAfter then some ⟨key, notAfter⟩ else none

def tlsSecret (d : Deadline) (secret : Secret) : Except Error (Option Report.TlsSecret) := do
  let name := secret.metadata.anyName
  let namespace_ := secret.metadata.namespace_.getD ""
  let certificates ←
    collect (tlsCertificate d (secretOrigin namespace_ name) secret) tlsKeys
  return if certificates.isEmpty then none else some ⟨name, namespace_, certificates⟩

/-! ## Kubeconfigs -/

/-- What the name of the secret with the kubeconfig of a control plane ends with. -/
def kubeconfigEnding : String := "-kubeconfig"

def kubeconfigKey : String := "value"

/-- Whether a secret holds the kubeconfig of a control plane: it has the name of one, and a control
plane owns it. -/
def isKubeconfigSecret (secret : Secret) : Bool :=
  kubeconfigEnding.toList.isSuffixOf secret.metadata.anyName.toList &&
    secret.metadata.ownerKinds.contains Machines.controlPlaneKind.kind

/-- The certificate of an entry of a kubeconfig, if it has one and it is to be reported. Blank
characters around it do not count. -/
def entryCertificate (d : Deadline) (certificateName origin : String) (e : Kubeconfig.Entry) :
    Except Error (Option Report.EntryCertificate) :=
  match e.certificate with
  | none => .ok none
  | some data => do
    let origin := origin ++ " '" ++ e.name ++ "'"
    let pem ← (Base64.decode (Text.Utf8.encode (Text.trim data.toList))).mapError
      (Error.certificateData origin)
    let notAfter ← certificateExpiry origin pem
    return if d.reports notAfter then some ⟨e.name, certificateName, notAfter⟩ else none

/-- The kubeconfig in a secret. Bytes that are no text are replaced. -/
def kubeconfigOf (namespace_ name : String) (secret : Secret) : Except Error Kubeconfig :=
  match secret.get? kubeconfigKey with
  | none => .error (.missingKubeconfig namespace_ name)
  | some bytes =>
    match Kubeconfig.parse (Text.Utf8.decodeLossy bytes) with
    | some kubeconfig => .ok kubeconfig
    | none => .error (.kubeconfig namespace_ name)

/-- What the secret with the kubeconfig of a control plane adds to the report. -/
def kubeconfigSecret (d : Deadline) (secret : Secret) :
    Except Error (Option Report.KubeconfigSecret) := do
  let name := secret.metadata.anyName
  let namespace_ := secret.metadata.namespace_.getD ""
  let kubeconfig ← kubeconfigOf namespace_ name secret
  let origin := secretOrigin namespace_ name
  let clusters ←
    collect (entryCertificate d "CertificateAuthorityData" (origin ++ " cluster"))
      kubeconfig.clusters
  let users ←
    collect (entryCertificate d "ClientCertificateData" (origin ++ " user")) kubeconfig.users
  return if clusters.isEmpty && users.isEmpty then none
    else some ⟨name, namespace_, clusters, users⟩

/-! ## Nodes -/

def nodeCertificates (d : Deadline) (node : Node) :
    Except Error (Option Report.NodeCertificates) :=
  let name := node.metadata.anyName
  match (node.metadata.annotations.getD []).lookup annotationKey with
  | none => .ok none
  | some value => do
    let entries ← (Annotations.parse value).mapError (.annotations name)
    let certificates := entries.filterMap fun (certificate, notAfter) =>
      if d.reports notAfter then some ⟨certificate, notAfter⟩ else none
    return if certificates.isEmpty then none else some ⟨name, certificates⟩

/-! ## The check -/

def checkTlsSecrets (d : Deadline) : Inventory.Dialogue (Except Error (List Report.TlsSecret)) := do
  match ← Inventory.listSecrets { Inventory.SecretQuery.all with type := some tlsType } with
  | .error cause => return .error (.inventory cause)
  | .ok secrets => return collect (tlsSecret d) secrets

def checkKubeconfigs (d : Deadline) :
    Inventory.Dialogue (Except Error (List Report.KubeconfigSecret)) := do
  match ← Inventory.listSecrets .all with
  | .error cause => return .error (.inventory cause)
  | .ok secrets => return collect (kubeconfigSecret d) (secrets.filter isKubeconfigSecret)

def checkNodes (d : Deadline) :
    Inventory.Dialogue (Except Error (List Report.NodeCertificates)) := do
  match ← Inventory.listNodes with
  | .error cause => return .error (.inventory cause)
  | .ok nodes => return collect (nodeCertificates d) nodes

/-- Reports every certificate that expires before a deadline. -/
def check (d : Deadline) : Inventory.Dialogue (Except Error Report) :=
  (checkTlsSecrets d).andThen fun tlsSecrets =>
    (checkKubeconfigs d).andThen fun kubeconfigs =>
      (checkNodes d).andThen fun nodes => .done (.ok ⟨tlsSecrets, kubeconfigs, nodes⟩)

end CertRenewal.Expiry
