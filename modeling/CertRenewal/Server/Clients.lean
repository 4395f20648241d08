import CertRenewal.Inventory.Client
import CertRenewal.Machines.Client
import CertRenewal.Maintenance.Client
import CertRenewal.Renewal.Strategy
import CertRenewal.Server.Collection

/-!
# The server as a client

Every question that the parts of this library ask is answered by one request to the server of the
cluster, or by none when it cannot be addressed. Each function here gives the dialogue with the
server that answers a question.
-/

namespace CertRenewal.Server

open CertRenewal.Cluster (Node Pod Resource ResourceKind Secret)

def nodes : Collection := ⟨.node, none⟩

def pods (namespace_ : String) : Collection := ⟨.pod, some namespace_⟩

/-- The secrets of a namespace, or of all. -/
def secrets (namespace_ : Option String) : Collection := ⟨.secret, namespace_⟩

/-- The control planes of a namespace, or of all. -/
def controlPlanes (namespace_ : Option String) : Collection :=
  ⟨Machines.controlPlaneKind, namespace_⟩

/-- The templates among which that of a reference is found. -/
def templates (reference : Machines.TemplateReference) : Collection :=
  ⟨reference.resourceKind, some reference.namespaceText⟩

/-- Answers a question of an in-place renewal. A pod without a namespace is created in the given
one. -/
def maintenance (defaultNamespace : String) : (call : Maintenance.Call) → Dialogue call.Answer
  | call@(.listNodes) =>
    (nodes.list [("labelSelector", Maintenance.roleLabel)] Node.ofJson?).bind fun
      | .error cause => .done (.error (call.failure cause))
      | .ok found => .done (found.mapM Maintenance.ControlPlaneNode.ofNode)
  | call@(.createPod _ pod) =>
    ((pods (pod.metadata.namespace_.getD defaultNamespace)).create pod.toJson Pod.ofJson?).mapError
      call.failure
  | call@(.getPod namespace_ name) =>
    ((pods namespace_).get name Pod.ofJson?).mapError call.failure
  | call@(.getNode name) => (nodes.get name Node.ofJson?).mapError call.failure

def machines : (call : Machines.Call) → Dialogue call.Answer
  | call@(.listControlPlanes) =>
    ((controlPlanes none).list [] Resource.ofJson?).mapError call.failure
  | call@(.getTemplate reference) =>
    ((templates reference).get reference.name Resource.ofJson?).mapError call.failure
  | call@(.createTemplate reference template) =>
    ((templates reference).create template.toJson Resource.ofJson?).mapError call.failure
  | call@(.patchControlPlane controlPlane patch) =>
    let objects := controlPlanes (some controlPlane.namespace_)
    (objects.patch controlPlane.name patch.toJson Resource.ofJson?).bind fun
      | .error cause => .done (.error (call.failure cause))
      | .ok _ => .done (.ok ())

def renewal (defaultNamespace : String) : (call : Renewal.Call) → Dialogue call.Answer
  | .maintenance call => maintenance defaultNamespace call
  | .machines call => machines call

def inventory : (call : Inventory.Call) → Dialogue call.Answer
  | call@(.listSecrets query) =>
    let conditions := query.fieldSelector.toList.map fun selector => ("fieldSelector", selector)
    ((secrets query.namespace_).list conditions Secret.ofJson?).mapError call.failure
  | call@(.getSecret namespace_ name) =>
    ((secrets (some namespace_)).get name Secret.ofJson?).mapError call.failure
  | call@(.deleteSecret namespace_ name) =>
    ((secrets (some namespace_)).delete name Secret.ofJson?).mapError call.failure
  | call@(.listPods namespace_) =>
    ((pods namespace_).list [] Pod.ofJson?).mapError call.failure
  | call@(.deletePod namespace_ name) =>
    ((pods namespace_).delete name Pod.ofJson?).mapError call.failure
  | call@(.listNodes) => (nodes.list [] Node.ofJson?).mapError call.failure

end CertRenewal.Server
