import CertRenewal.Cluster.Failure
import CertRenewal.Cluster.Resource
import CertRenewal.Json.Patch
import CertRenewal.Machines.Reference

/-!
# Control planes and their machine templates

What a rolling update reads from a control plane, the copy of a template that it creates, and the
patch that points the control plane at the copy.
-/

namespace CertRenewal.Machines

/-- Why a control plane or a machine template cannot be read or changed. -/
inductive Error where
  | listControlPlanes (kind : String) (cause : Cluster.Failure)
  | getTemplate (kind namespace_ name : String) (cause : Cluster.Failure)
  | createTemplate (kind namespace_ name : String) (cause : Cluster.Failure)
  | patchControlPlane (namespace_ name : String) (cause : Cluster.Failure)
  | missingMetadata (field : String)
  | missingReference (name : String)
  | invalidReference (name : String) (cause : TemplateReference.Error)
  deriving Repr, BEq

def Error.message : Error → String
  | .listControlPlanes kind cause =>
    "Unable to list " ++ kind ++ " objects: '" ++ cause.message ++ "'"
  | .getTemplate kind namespace_ name cause =>
    "Unable to fetch " ++ kind ++ " '" ++ namespace_ ++ "/" ++ name ++ "': '" ++ cause.message ++
      "'"
  | .createTemplate kind namespace_ name cause =>
    "Unable to create " ++ kind ++ " from template '" ++ namespace_ ++ "/" ++ name ++ "': '" ++
      cause.message ++ "'"
  | .patchControlPlane namespace_ name cause =>
    "Unable to patch control plane '" ++ namespace_ ++ "/" ++ name ++ "': '" ++ cause.message ++ "'"
  | .missingMetadata field =>
    "Cluster API object is missing required metadata field '" ++ field ++ "'."
  | .missingReference name =>
    "Control plane '" ++ name ++ "' has no 'spec.infrastructureTemplate' reference."
  | .invalidReference name cause =>
    "Control plane '" ++ name ++ "' has an invalid 'spec.infrastructureTemplate' reference: '" ++
      cause.message ++ "'"

/-- What a rolling update reads from a control plane. The template always has a namespace. -/
structure ControlPlane where
  name : String
  namespace_ : String
  template : TemplateReference
  deriving DecidableEq, Repr

namespace ControlPlane

def referencePath : Json.Path := ["spec", "infrastructureTemplate"]

def templateNamePath : Json.Path := referencePath ++ ["name"]

def reference? (r : Cluster.Resource) : Option Json :=
  (Json.Fields.get? r.body "spec").bind (Json.get? "infrastructureTemplate")

/-- A reference whose namespace, when it has none, is the given one. -/
def withNamespace (namespace_ : String) (r : TemplateReference) : TemplateReference :=
  if r.namespaceText = "" then { r with namespace_ := some namespace_ } else r

/-- Reads a control plane. The name is looked at first, then the namespace, then the reference. -/
def ofResource (r : Cluster.Resource) : Except Error ControlPlane :=
  match r.metadata.name, r.metadata.namespace_ with
  | none, _ => .error (.missingMetadata "name")
  | some _, none => .error (.missingMetadata "namespace")
  | some name, some namespace_ =>
    match reference? r with
    | none => .error (.missingReference name)
    | some reference =>
      match TemplateReference.ofJson reference with
      | .error cause => .error (.invalidReference name cause)
      | .ok template => .ok ⟨name, namespace_, withNamespace namespace_ template⟩

/-- The patch that makes a control plane use the template of a name. -/
def templatePatch (name : String) : Json.Patch := [.replace templateNamePath (.string name)]

end ControlPlane

/-- A copy of a template to be created as a new object: the server is asked to find a name that
starts with that of the template, and everything else is as it was. -/
def cloneTemplate (template : Cluster.Resource) : Cluster.Resource :=
  { template with
    metadata := { template.metadata with
      name := none
      generateName := some (template.metadata.name.getD "" ++ "-")
      resourceVersion := none } }

end CertRenewal.Machines
