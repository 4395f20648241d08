import CertRenewal.Cluster.Failure
import CertRenewal.Cluster.Node

/-!
# Control-plane nodes

A node that carries the control-plane role label. Such nodes are read from the cluster and never
changed; whether one is healthy is asked of the cluster each time.
-/

namespace CertRenewal.Maintenance

def roleLabel : String := "node-role.kubernetes.io/control-plane"

/-- Why a question about nodes and maintenance pods has no answer. -/
inductive Error where
  | listNodes (selector : String) (cause : Cluster.Failure)
  | getNode (node : String) (cause : Cluster.Failure)
  | createPod (node : String) (cause : Cluster.Failure)
  | getPod (namespace_ pod : String) (cause : Cluster.Failure)
  | missingName
  | notControlPlane (node : String)
  deriving DecidableEq, Repr

def Error.message : Error → String
  | .listNodes selector cause =>
    "Unable to list nodes matching label selector '" ++ selector ++ "': '" ++ cause.message ++ "'"
  | .getNode node cause => "Unable to fetch Node '" ++ node ++ "': '" ++ cause.message ++ "'"
  | .createPod node cause =>
    "Unable to create maintenance Pod for Node '" ++ node ++ "': '" ++ cause.message ++ "'"
  | .getPod namespace_ pod cause =>
    "Unable to fetch Pod '" ++ namespace_ ++ "/" ++ pod ++ "': '" ++ cause.message ++ "'"
  | .missingName => "Node object returned by the Kubernetes API has no name."
  | .notControlPlane node =>
    "Node '" ++ node ++ "' does not carry the control-plane role label '" ++ roleLabel ++ "'."

/-- A node with the control-plane role. -/
structure ControlPlaneNode where
  name : String
  labels : Cluster.Labels
  deriving DecidableEq, Repr

namespace ControlPlaneNode

/-- A node of a name with labels, which must include that of the role. -/
def ofLabels (name : String) (labels : Cluster.Labels) : Except Error ControlPlaneNode :=
  if labels.any fun (key, _) => key == roleLabel then .ok ⟨name, labels⟩
  else .error (.notControlPlane name)

def ofNode (node : Cluster.Node) : Except Error ControlPlaneNode :=
  match node.metadata.name with
  | none => .error .missingName
  | some name => ofLabels name (node.metadata.labels.getD [])

end ControlPlaneNode

end CertRenewal.Maintenance
