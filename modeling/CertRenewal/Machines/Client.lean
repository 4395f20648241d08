import CertRenewal.Dialogue
import CertRenewal.Machines.ControlPlane

/-!
# What a rolling update asks of the cluster
-/

namespace CertRenewal.Machines

inductive Call where
  /-- All control planes, in the order of the cluster. -/
  | listControlPlanes
  | getTemplate (reference : TemplateReference)
  /-- Creates a template of the kind and in the namespace of a reference, and gives it as the
  cluster has accepted it. -/
  | createTemplate (reference : TemplateReference) (template : Cluster.Resource)
  | patchControlPlane (controlPlane : ControlPlane) (patch : Json.Patch)
  deriving Repr

def Call.Answer : Call → Type
  | .listControlPlanes => Except Error (List Cluster.Resource)
  | .getTemplate _ => Except Error Cluster.Resource
  | .createTemplate _ _ => Except Error Cluster.Resource
  | .patchControlPlane _ _ => Except Error Unit

def Call.failure : Call → Cluster.Failure → Error
  | .listControlPlanes => .listControlPlanes controlPlaneKind.kind
  | .getTemplate reference => .getTemplate reference.kind reference.namespaceText reference.name
  | .createTemplate reference _ =>
    .createTemplate reference.kind reference.namespaceText reference.name
  | .patchControlPlane controlPlane _ =>
    .patchControlPlane controlPlane.namespace_ controlPlane.name

def Call.fail (error : Error) : (call : Call) → call.Answer
  | .listControlPlanes | .getTemplate _ | .createTemplate _ _ | .patchControlPlane _ _ =>
    .error error

abbrev Dialogue := CertRenewal.Dialogue Call Call.Answer

def listControlPlanes : Dialogue (Except Error (List Cluster.Resource)) :=
  .call Call.listControlPlanes

def getTemplate (reference : TemplateReference) : Dialogue (Except Error Cluster.Resource) :=
  .call (Call.getTemplate reference)

def createTemplate (reference : TemplateReference) (template : Cluster.Resource) :
    Dialogue (Except Error Cluster.Resource) :=
  .call (Call.createTemplate reference template)

def patchControlPlane (controlPlane : ControlPlane) (patch : Json.Patch) :
    Dialogue (Except Error Unit) :=
  .call (Call.patchControlPlane controlPlane patch)

end CertRenewal.Machines
