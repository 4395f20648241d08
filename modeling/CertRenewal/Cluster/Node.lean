import CertRenewal.Cluster.Metadata

/-!
# Nodes

A node of the cluster. It is ready when its agent reports the condition `Ready` with the status
`True`; an unknown status is not enough.
-/

namespace CertRenewal.Cluster

structure Node where
  metadata : Metadata
  spec : Option Json
  status : Option Json
  deriving Repr

namespace Node

def ofJson? (value : Json) : Option Node := do
  let (metadata, normal) ←
    readObject "Node" [("spec", Shape.nodeSpec), ("status", Shape.nodeStatus)] value
  return ⟨metadata, normal.get? "spec", normal.get? "status"⟩

def toJson (n : Node) : Json :=
  writeObject "Node" n.metadata (Metadata.field "spec" n.spec ++ Metadata.field "status" n.status)

/-- A condition that the agent of a node reports. -/
structure Condition where
  kind : Option String
  status : Option String
  deriving DecidableEq, Repr

def Condition.ofJson (value : Json) : Condition :=
  ⟨value.getString? "type", value.getString? "status"⟩

def conditions (n : Node) : List Condition :=
  match n.status.bind (Json.get? "conditions") with
  | some conditions => conditions.items.map Condition.ofJson
  | none => []

/-- Whether the agent of the node reports that the node is ready. -/
def isReady (n : Node) : Bool :=
  n.conditions.any fun c => c.kind == some "Ready" && c.status == some "True"

end Node

end CertRenewal.Cluster
