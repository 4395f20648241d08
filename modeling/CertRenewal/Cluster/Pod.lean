import CertRenewal.Cluster.Metadata

/-!
# Pods

A pod of the cluster, with its phase and the names of its volumes.
-/

namespace CertRenewal.Cluster

structure Pod where
  metadata : Metadata
  spec : Option Json
  status : Option Json
  deriving Repr

namespace Pod

def ofJson? (value : Json) : Option Pod := do
  let (metadata, normal) ←
    readObject "Pod" [("spec", Shape.podSpec), ("status", Shape.podStatus)] value
  return ⟨metadata, normal.get? "spec", normal.get? "status"⟩

def toJson (p : Pod) : Json :=
  writeObject "Pod" p.metadata (Metadata.field "spec" p.spec ++ Metadata.field "status" p.status)

def phase (p : Pod) : Option String := p.status.bind (Json.getString? "phase")

def volumeNames (p : Pod) : List String :=
  match p.spec.bind (Json.get? "volumes") with
  | some volumes => volumes.items.filterMap (Json.getString? "name")
  | none => []

end Pod

end CertRenewal.Cluster
