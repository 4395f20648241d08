import CertRenewal.Machines.Client

/-!
# A cluster of control planes and templates

A store that answers the questions of a rolling update: control planes and templates are listed in a
fixed order, a template that is created is put behind the others, and a patch changes every control
plane of its name and namespace to which it can be applied.
-/

namespace CertRenewal.Machines

open CertRenewal.Cluster (Failure Resource)

/-- Control planes and templates, and the number of templates that have been created. -/
structure Store where
  controlPlanes : List Resource
  templates : List Resource
  created : Nat
  deriving Repr

namespace Store

def isNamed (namespace_ name : String) (r : Resource) : Bool :=
  r.metadata.namespace_ == some namespace_ && r.metadata.name == some name

def find? (reference : TemplateReference) (s : Store) : Option Resource :=
  s.templates.find? (isNamed reference.namespaceText reference.name)

/-- What the cluster makes of a template that is to be created under a name. -/
def accepted (name : Option String) (template : Resource) (s : Store) : Resource :=
  { template with
    metadata := { template.metadata with
      name := name
      resourceVersion := some (toString (1000 + s.created)) } }

/-- Names that start as a template asks and end with the number of templates created before. -/
def numberedName (s : Store) (template : Resource) : Option String :=
  some (template.metadata.generateName.getD "" ++ toString s.created)

def patched (patch : Json.Patch) (r : Resource) : Resource :=
  ((patch.applied? r.toJson).bind Resource.ofJson?).getD r

/-- Answers a question. `naming` gives the name of a template that is created. -/
def respond (naming : Store → Resource → Option String) :
    (call : Call) → Store → call.Answer × Store
  | .listControlPlanes, s => (.ok s.controlPlanes, s)
  | .getTemplate reference, s =>
    match s.find? reference with
    | some template => (.ok template, s)
    | none =>
      (.error ((Call.getTemplate reference).failure (Failure.notFound reference.name)), s)
  | .createTemplate _ template, s =>
    let template := s.accepted (naming s template) template
    (.ok template, { s with templates := s.templates ++ [template], created := s.created + 1 })
  | .patchControlPlane controlPlane patch, s =>
    let controlPlanes := s.controlPlanes.map fun r =>
      if isNamed controlPlane.namespace_ controlPlane.name r then patched patch r else r
    (.ok (), { s with controlPlanes := controlPlanes })

end Store

end CertRenewal.Machines
