import CertRenewal.Cluster.Pod
import CertRenewal.Dialogue
import CertRenewal.Maintenance.Node

/-!
# What an in-place renewal asks of the cluster
-/

namespace CertRenewal.Maintenance

inductive Call where
  /-- All control-plane nodes, in the order of the cluster. -/
  | listNodes
  /-- Creates a pod for a node, and gives it as the cluster has accepted it. -/
  | createPod (node : ControlPlaneNode) (pod : Cluster.Pod)
  | getPod (namespace_ name : String)
  | getNode (name : String)
  deriving Repr

def Call.Answer : Call → Type
  | .listNodes => Except Error (List ControlPlaneNode)
  | .createPod _ _ => Except Error Cluster.Pod
  | .getPod _ _ => Except Error Cluster.Pod
  | .getNode _ => Except Error Cluster.Node

def Call.failure : Call → Cluster.Failure → Error
  | .listNodes => .listNodes roleLabel
  | .createPod node _ => .createPod node.name
  | .getPod namespace_ name => .getPod namespace_ name
  | .getNode name => .getNode name

def Call.fail (error : Error) : (call : Call) → call.Answer
  | .listNodes | .createPod _ _ | .getPod _ _ | .getNode _ => .error error

abbrev Dialogue := CertRenewal.Dialogue Call Call.Answer

def listNodes : Dialogue (Except Error (List ControlPlaneNode)) := .call Call.listNodes

def createPod (node : ControlPlaneNode) (pod : Cluster.Pod) : Dialogue (Except Error Cluster.Pod) :=
  .call (Call.createPod node pod)

def getPod (namespace_ name : String) : Dialogue (Except Error Cluster.Pod) :=
  .call (Call.getPod namespace_ name)

def getNode (name : String) : Dialogue (Except Error Cluster.Node) := .call (Call.getNode name)

end CertRenewal.Maintenance
