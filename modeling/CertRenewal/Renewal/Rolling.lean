import CertRenewal.Machines.Client

/-!
# Rolling update

The control plane that is listed first is pointed at a copy of its machine template, whereupon the
cluster replaces the machines one by one. It takes four questions, each of which is asked once and
only when the one before it was answered: the listing, the template, its copy, and the change of the
control plane.
-/

namespace CertRenewal.Renewal.Rolling

open CertRenewal.Machines (ControlPlane TemplateReference)

inductive Error where
  | controlPlaneLookup (cause : Machines.Error)
  | controlPlaneNotFound
  | templateLookup (controlPlane : String) (cause : Machines.Error)
  | createTemplate (template : TemplateReference) (cause : Machines.Error)
  | cloneWithoutName (template : TemplateReference)
  | patchControlPlane (controlPlane clone : String) (cause : Machines.Error)
  deriving Repr, BEq

def Error.message : Error → String
  | .controlPlaneLookup cause => "Unable to read control-plane resource: '" ++ cause.message ++ "'"
  | .controlPlaneNotFound => "No control-plane resource found."
  | .templateLookup controlPlane cause =>
    "Unable to read machine template for control plane '" ++ controlPlane ++ "': '" ++
      cause.message ++ "'"
  | .createTemplate template cause =>
    "Unable to clone machine template " ++ template.display ++ ": '" ++ cause.message ++ "'"
  | .cloneWithoutName template =>
    "Clone of machine template " ++ template.display ++ " was returned without a name."
  | .patchControlPlane controlPlane clone cause =>
    "Unable to point control plane '" ++ controlPlane ++ "' at machine template '" ++ clone ++
      "'; the clone '" ++ clone ++ "' is left unreferenced and must be deleted manually: '" ++
      cause.message ++ "'"

structure Summary where
  controlPlane : String
  namespace_ : String
  previousTemplate : String
  newTemplate : String
  deriving DecidableEq, Repr

/-- Finds the control plane to be updated, which is the first one listed. -/
def findControlPlane : Machines.Dialogue (Except Error ControlPlane) := do
  match ← Machines.listControlPlanes with
  | .error cause => return .error (.controlPlaneLookup cause)
  | .ok [] => return .error .controlPlaneNotFound
  | .ok (first :: _) => return (ControlPlane.ofResource first).mapError .controlPlaneLookup

/-- Creates a copy of the template of a control plane, and gives the name that it got. -/
def createClone (controlPlane : ControlPlane) : Machines.Dialogue (Except Error String) := do
  let reference := controlPlane.template
  match ← Machines.getTemplate reference with
  | .error cause => return .error (.templateLookup controlPlane.name cause)
  | .ok template =>
    match ← Machines.createTemplate reference (Machines.cloneTemplate template) with
    | .error cause => return .error (.createTemplate reference cause)
    | .ok created =>
      match created.metadata.name with
      | none => return .error (.cloneWithoutName reference)
      | some name => return .ok name

def pointAt (controlPlane : ControlPlane) (clone : String) :
    Machines.Dialogue (Except Error Summary) := do
  match ← Machines.patchControlPlane controlPlane (ControlPlane.templatePatch clone) with
  | .error cause => return .error (.patchControlPlane controlPlane.name clone cause)
  | .ok _ =>
    return .ok ⟨controlPlane.name, controlPlane.namespace_, controlPlane.template.name, clone⟩

/-- Updates the control plane that is listed first. -/
def renew : Machines.Dialogue (Except Error Summary) :=
  findControlPlane.andThen fun controlPlane =>
    (createClone controlPlane).andThen fun clone => pointAt controlPlane clone

end CertRenewal.Renewal.Rolling
