import CertRenewal.Report.Basic
import CertRenewal.Report.Sink
import CertRenewal.Text.Utf8

/-!
# The report as a table

Each kind of source has a section of its own. A section writes its header just before its first row,
so that one without rows writes nothing; whether the header has been written is the state that runs
through the rows.
-/

namespace CertRenewal.Report.Table

/-- The width that names and locations are filled up to. -/
def columnWidth : Nat := 48

/-- A text filled up with spaces to the width of a column; a longer one is left as it is. -/
def padded (s : List Char) : List Char := s ++ List.replicate (columnWidth - s.length) ' '

def line (first second third : List Char) : List Char :=
  padded first ++ ' ' :: padded second ++ ' ' :: third ++ ['\n']

/-- The title of a section and the heading of its second column. -/
structure Section where
  title : String
  location : String
  deriving DecidableEq, Repr

def tlsSection : Section := ⟨"TLS SECRETS", "SECRET"⟩

def kubeconfigSection : Section := ⟨"KUBECONFIG SECRETS", "SECRET"⟩

def nodeSection : Section := ⟨"NODE CERTIFICATES", "NODE"⟩

structure Row where
  certificate : List Char
  location : List Char
  expiry : Instant
  deriving DecidableEq, Repr

def Row.text (r : Row) : List Char := line r.certificate r.location r.expiry.displayText

def put (text : List Char) : Writing Unit := Sink.put (Text.Utf8.encode text)

/-- Writes a row, after the header of its section when that has not been written. -/
def writeRow (s : Section) (headerWritten : Bool) (row : Row) : Writing Bool := do
  if !headerWritten then
    put ['\n']
    put (s.title.toList ++ ['\n'])
    put (line "CERTIFICATE".toList s.location.toList "EXPIRY DATE".toList)
  put row.text
  return true

def writeRows (s : Section) (headerWritten : Bool) : List Row → Writing Bool
  | [] => return headerWritten
  | row :: rest => do
    let headerWritten ← writeRow s headerWritten row
    writeRows s headerWritten rest

/-- Writes the rows of the groups of a section, group by group. -/
def writeGroups (s : Section) (headerWritten : Bool) : List (List Row) → Writing Bool
  | [] => return headerWritten
  | rows :: rest => do
    let headerWritten ← writeRows s headerWritten rows
    writeGroups s headerWritten rest

def secretLocation (namespace_ name : String) : List Char :=
  namespace_.toList ++ '/' :: name.toList

def tlsRows (s : TlsSecret) : List Row :=
  s.certificates.map fun c => ⟨c.name.toList, secretLocation s.namespace_ s.name, c.expiry⟩

/-- The row of a certificate of a kubeconfig entry of a kind. -/
def entryRow (kind : String) (s : KubeconfigSecret) (c : EntryCertificate) : Row :=
  ⟨c.name.toList ++ " (".toList ++ kind.toList ++ ' ' :: c.entry.toList ++ [')'],
    secretLocation s.namespace_ s.name, c.expiry⟩

/-- The rows of a kubeconfig secret, those of its clusters first. -/
def kubeconfigRows (s : KubeconfigSecret) : List Row :=
  s.clusters.map (entryRow "cluster" s) ++ s.users.map (entryRow "user" s)

def nodeRows (n : NodeCertificates) : List Row :=
  n.certificates.map fun c => ⟨c.name.toList, n.name.toList, c.expiry⟩

def write (r : Report) : Writing Unit := do
  let _ ← writeGroups tlsSection false (r.tlsSecrets.map tlsRows)
  let _ ← writeGroups kubeconfigSection false (r.kubeconfigs.map kubeconfigRows)
  let _ ← writeGroups nodeSection false (r.nodes.map nodeRows)

end CertRenewal.Report.Table
