import CertRenewal.Access.Error
import CertRenewal.Base64
import CertRenewal.Kubeconfig
import CertRenewal.Text.Split
import CertRenewal.Text.Utf8

/-!
# Kubeconfigs that say where the server is

A kubeconfig names clusters, users and contexts, which join a cluster and a user. One context is the
current one. Several files are merged: of entries with one name the first is kept.
-/

namespace CertRenewal.Access

open CertRenewal.Yaml (Node)
open CertRenewal.Kubeconfig (field fields items optionalText text)

/-- A context: a cluster, a user, and the namespace of objects that do not name one. -/
structure Context where
  cluster : String
  user : String
  namespace_ : Option String
  deriving DecidableEq, Repr

/-- What identifies a user: a certificate and a key, or a token. -/
structure User where
  certificate : Option String
  key : Option String
  token : Option String
  deriving DecidableEq, Repr

/-- The parts of a kubeconfig that say where the server is. An entry may be a name alone. -/
structure Kubeconfig where
  clusters : List (String × Option (Option String))
  users : List (String × Option User)
  contexts : List (String × Option Context)
  current : Option String
  deriving DecidableEq, Repr

namespace Kubeconfig

def empty : Kubeconfig := ⟨[], [], [], none⟩

/-- Puts the entries whose names are new behind the others. -/
def mergeEntries (first second : List (String × α)) : List (String × α) :=
  first ++ second.filter fun (name, _) => (first.lookup name).isNone

def merge (first second : Kubeconfig) : Kubeconfig where
  clusters := mergeEntries first.clusters second.clusters
  users := mergeEntries first.users second.users
  contexts := mergeEntries first.contexts second.contexts
  current := first.current.orElse fun _ => second.current

/-! ## Reading -/

/-- A field that is a text or null and may be missing. -/
def textField? (document : Node) (key : String) (entries : List (List Char × Node)) :
    Option (Option String) := do
  match ← field key entries with
  | none => return none
  | some node => return (← optionalText document node).map String.ofList

def textField (document : Node) (key : String) (entries : List (List Char × Node)) :
    Option String := do
  return String.ofList (← text document (← (← field key entries)))

/-- Reads an entry: a name, and a record under a key, which may be missing. -/
def entry (document : Node) (key : String)
    (read : List (List Char × Node) → Option α) (node : Node) : Option (String × Option α) := do
  let outer ← fields document node
  let name ← textField document "name" outer
  match ← field key outer with
  | none => return (name, none)
  | some record => return (name, some (← read (← fields document record)))

def entries (document : Node) (listKey key : String) (read : List (List Char × Node) → Option α)
    (outer : List (List Char × Node)) : Option (List (String × Option α)) := do
  match ← field listKey outer with
  | none => return []
  | some node => (← items document node).mapM (entry document key read)

def user (document : Node) (record : List (List Char × Node)) : Option User := do
  return ⟨← textField? document "client-certificate-data" record,
    ← textField? document "client-key-data" record, ← textField? document "token" record⟩

def context (document : Node) (record : List (List Char × Node)) : Option Context := do
  return ⟨← textField document "cluster" record, ← textField document "user" record,
    ← textField? document "namespace" record⟩

def ofNode (document : Node) : Option Kubeconfig := do
  let outer ← fields document document
  return {
    clusters := ← entries document "clusters" "cluster" (textField? document "server") outer
    users := ← entries document "users" "user" (user document) outer
    contexts := ← entries document "contexts" "context" (context document) outer
    current := ← textField? document "current-context" outer }

def parse (text : List Char) : Option Kubeconfig := do ofNode (← Yaml.parse text)

/-! ## The selected context -/

/-- The entry of a name, when it is more than a name. -/
def find? (entries : List (String × Option α)) (name : String) : Option α :=
  (entries.lookup name).join

/-- A server and who asks it. -/
structure Selection where
  url : String
  defaultNamespace : String
  user : User
  deriving DecidableEq, Repr

/-- What the context of a name selects, or the current one when none is named. -/
def select (k : Kubeconfig) (name? : Option String) : Except KubeconfigError Selection := do
  let some name := name?.orElse fun _ => k.current | throw .noContext
  let some context := find? k.contexts name | throw (.unknownContext name)
  let some server := find? k.clusters context.cluster | throw (.unknownCluster context.cluster)
  let some user := find? k.users context.user | throw (.unknownUser context.user)
  let some url := server | throw .missingUrl
  if url.isEmpty then throw (.invalidUrl "empty string")
  return ⟨url, context.namespace_.getD "default", user⟩

end Kubeconfig

/-! ## Identities -/

def keyLabels : List String := ["PRIVATE KEY", "RSA PRIVATE KEY", "EC PRIVATE KEY"]

def hasBlock (label : String) (pem : List Char) : Bool :=
  (Text.splitOn ['\n'] pem).any fun line =>
    ("-----BEGIN ".toList ++ label.toList ++ "-----".toList).isPrefixOf line

def decoded? (data : Option String) : Option (List Char) :=
  match data.map fun data => Base64.decode (Text.Utf8.encode data.toList) with
  | some (.ok bytes) => some (Text.Utf8.decodeLossy bytes)
  | _ => none

/-- Checks what identifies a user. Without a certificate or without a key nothing does, and that is
no error; with both there must be blocks of them. -/
def User.check (u : User) : Except IdentityError Unit :=
  match decoded? u.certificate, decoded? u.key with
  | some certificate, some key =>
    let pem := key ++ '\n' :: certificate
    if !keyLabels.any (hasBlock · pem) then .error .noKey
    else if !hasBlock "CERTIFICATE" pem then .error .noCertificate
    else .ok ()
  | _, _ => .ok ()

end CertRenewal.Access
