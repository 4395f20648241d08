import CertRenewal.Cluster.Metadata

/-!
# Resources of any kind

An object of a kind that this library does not know by itself: its metadata is read, and all the
rest is kept as it is. The names of its type are kept only when both are there.
-/

namespace CertRenewal.Cluster

structure TypeNames where
  apiVersion : String
  kind : String
  deriving DecidableEq, Repr

namespace TypeNames

/-- Takes the names of the type out of the fields of an object, one field after the other, until one
is no string or repeats. The fields that have been taken are gone even when the names are not
complete. -/
def take (apiVersion kind : Option String) :
    Json.Fields → Option TypeNames × Json.Fields
  | [] =>
    match apiVersion, kind with
    | some apiVersion, some kind => (some ⟨apiVersion, kind⟩, [])
    | _, _ => (none, [])
  | (key, value) :: rest =>
    if key = "apiVersion" then
      match value, apiVersion with
      | .string s, none => take (some s) kind rest
      | _, _ => (none, rest)
    else if key = "kind" then
      match value, kind with
      | .string s, none => take apiVersion (some s) rest
      | _, _ => (none, rest)
    else
      let (names, rest) := take apiVersion kind rest
      (names, (key, value) :: rest)

def toFields (names : Option TypeNames) : Json.Fields :=
  match names with
  | some names => [("apiVersion", .string names.apiVersion), ("kind", .string names.kind)]
  | none => []

end TypeNames

structure Resource where
  types : Option TypeNames
  metadata : Metadata
  /-- The other fields. -/
  body : Json.Fields
  deriving Repr, BEq

namespace Resource

/-- Reads the metadata among the fields of an object, which may be missing but not given twice. -/
def metadataOf (fields : Json.Fields) : Option Metadata :=
  match fields.filter fun (key, _) => key == "metadata" with
  | [] => some .empty
  | [(_, value)] => Metadata.ofJson? value
  | _ => none

def ofJson? : Json → Option Resource
  | .object fields => do
    let metadata ← metadataOf fields
    let (types, rest) := TypeNames.take none none (fields.filter fun (key, _) => key != "metadata")
    return ⟨types, metadata, (Json.object rest).canonical.fields⟩
  | _ => none

def toJson (r : Resource) : Json :=
  .object (TypeNames.toFields r.types ++ ("metadata", r.metadata.toJson) :: r.body)

end Resource

end CertRenewal.Cluster
