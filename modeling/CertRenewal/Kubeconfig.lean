import CertRenewal.Yaml.Document
import CertRenewal.Yaml.Scalar

/-!
# Kubeconfig documents

Of a kubeconfig only the certificates of its clusters and users matter here. Any scalar is a text;
keys that are not known are passed over, and a known one must not be given twice. A list or a record
may be left empty, but not be null.
-/

namespace CertRenewal

/-- A cluster or user and the base64 text of its certificate. -/
structure Kubeconfig.Entry where
  name : String
  certificate : Option String
  deriving DecidableEq, Repr

/-- The certificates of a kubeconfig. -/
structure Kubeconfig where
  clusters : List Kubeconfig.Entry
  users : List Kubeconfig.Entry
  deriving DecidableEq, Repr

namespace Kubeconfig

open Yaml (Node)

def text (document node : Node) : Option (List Char) :=
  match document.resolve node with
  | .scalar _ _ _ text => some text
  | _ => none

/-- The text of a scalar, or nothing for null. A tag of null allows nothing else. -/
def optionalText (document node : Node) : Option (Option (List Char)) :=
  match document.resolve node with
  | .scalar _ none true text =>
    if text.isEmpty || Yaml.isNullWord text then some none else some (some text)
  | .scalar _ (some tag) true text =>
    if tag = Yaml.nullTag then if Yaml.isNullWord text then some none else none
    else some (some text)
  | .scalar _ _ false text => some (some text)
  | _ => none

/-- The items of a sequence; a value that is not there has none. -/
def items (document node : Node) : Option (List Node) :=
  match document.resolve node with
  | .sequence _ items => some items
  | .scalar _ _ true [] => some []
  | _ => none

/-- The fields of a record, whose keys must be scalars; a value that is not there has none. -/
def fields (document node : Node) : Option (List (List Char × Node)) :=
  match document.resolve node with
  | .mapping _ entries =>
    entries.mapM fun (key, value) => (text document key).map fun key => (key, value)
  | .scalar _ _ true [] => some []
  | _ => none

/-- The field of a key, which may be missing but not given twice. -/
def field (key : String) (fields : List (List Char × Node)) : Option (Option Node) :=
  match fields.filter fun (k, _) => k == key.toList with
  | [] => some none
  | [(_, value)] => some (some value)
  | _ => none

/-- Reads an entry of the clusters or users, whose certificate stands under `certificateKey` in the
record under `recordKey`. -/
def entry (document : Node) (recordKey certificateKey : String) (node : Node) : Option Entry := do
  let outer ← fields document node
  let name ← text document (← (← field "name" outer))
  let certificate ←
    match ← field recordKey outer with
    | none => some none
    | some record =>
      match ← field certificateKey (← fields document record) with
      | none => some none
      | some value => optionalText document value
  return ⟨String.ofList name, certificate.map String.ofList⟩

def entries (document : Node) (key recordKey certificateKey : String)
    (outer : List (List Char × Node)) : Option (List Entry) := do
  match ← field key outer with
  | none => return []
  | some node => (← items document node).mapM (entry document recordKey certificateKey)

def ofNode (document : Node) : Option Kubeconfig := do
  let outer ← fields document document
  return {
    clusters := ← entries document "clusters" "cluster" "certificate-authority-data" outer
    users := ← entries document "users" "user" "client-certificate-data" outer }

def parse (text : List Char) : Option Kubeconfig := do ofNode (← Yaml.parse text)

end Kubeconfig

end CertRenewal
