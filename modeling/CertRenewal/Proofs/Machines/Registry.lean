import CertRenewal.Machines.Client
import CertRenewal.Machines.Store
import CertRenewal.Proofs.Machines.ControlPlane

/-!
# A server that keeps documents

The server of the theorems about the state of a cluster. It keeps control planes as documents, in a
fixed order, and templates in the collections of their kinds. A template that is created is stored
as it was submitted, under a name that is not in use, and a patch is applied to the document of a
control plane or refused.

A `Document` carries the proof that it can be read, and a `Naming` the proof that it finds unused
names, so that neither has to be assumed of a registry. `Machines.Store` keeps objects as they have
been read; it does not know the kind of a template, and passes over a patch that cannot be applied.
-/

namespace CertRenewal.Machines

open CertRenewal.Cluster (Failure Resource ResourceKind)
open CertRenewal.Json (Ordered)
open CertRenewal.Machines.Store (isNamed)

/-! ## Documents -/

/-- The document of an object: its keys are in order, and it is read as the object. -/
structure Document where
  value : Json
  ordered : Ordered value
  object : Resource
  read : Resource.ofJson? value = some object

namespace Document

def ofJson? (value : Json) : Option Document :=
  match h : Resource.ofJson? value.canonical with
  | some object => some ⟨value.canonical, Json.ordered_canonical value, object, h⟩
  | none => none

/-- A document with a patch applied, unless an operation fails or the object is lost. -/
def patched? (patch : Json.Patch) (d : Document) : Option Document :=
  (patch.applied? d.value).bind ofJson?

/-- An ordered value that can be read is a document as it is. -/
theorem ofJson?_of_ordered {value : Json} {object : Resource} (hordered : Ordered value)
    (hread : Resource.ofJson? value = some object) :
    ofJson? value = some ⟨value, hordered, object, hread⟩ := by
  have hcanonical := hordered.canonical_eq
  rw [ofJson?]
  split
  · rename_i object' h
    rw [hcanonical, hread] at h
    cases h
    simp only [hcanonical]
  · rename_i h
    rw [hcanonical, hread] at h
    cases h

/-- A control plane whose reference is an object can be pointed at another template. Its document
changes at the path of the name, and it is read with the new template. -/
theorem exists_repointed {d : Document} {plane : ControlPlane} {fields : Json.Fields}
    (hplane : ControlPlane.Describes d.object plane)
    (hreference : ControlPlane.reference? d.object = some (.object fields)) (name : String) :
    ∃ d' fields', d.patched? (ControlPlane.templatePatch name) = some d' ∧
      Json.replaceAt (.string name) ControlPlane.templateNamePath d.value = some d'.value ∧
      ControlPlane.Describes d'.object (plane.repointed name) ∧
      ControlPlane.reference? d'.object = some (.object fields') := by
  obtain ⟨value', object', fields', hvalue', hordered', hread', hplane', hreference'⟩ :=
    ControlPlane.exists_repointed d.ordered d.read hplane hreference name
  refine ⟨⟨value', hordered', object', hread'⟩, fields', ?_, hvalue', hplane', hreference'⟩
  rw [patched?, ControlPlane.applied?_templatePatch, hvalue', Option.bind_some,
    ofJson?_of_ordered hordered' hread']

/-- Where the patch for a template can be applied, the reference is an object before and after, and
afterwards it has the name. Nothing but the body is read differently. -/
theorem of_patched? {d d' : Document} {name : String}
    (h : d.patched? (ControlPlane.templatePatch name) = some d') :
    ∃ fields fields', ControlPlane.reference? d.object = some (.object fields) ∧
      ControlPlane.reference? d'.object = some (.object fields') ∧
      Json.Fields.get? fields' "name" = some (.string name) ∧
      d'.object.metadata = d.object.metadata := by
  obtain ⟨value, hordered, object, hread⟩ := d
  simp only [patched?, ControlPlane.applied?_templatePatch] at h
  obtain ⟨value', hvalue', hread'⟩ := Option.bind_eq_some_iff.mp h
  obtain ⟨hordered', body', hobject', hbody⟩ :=
    Resource.ofJson?_replaceAt ControlPlane.kept_spec ControlPlane.templateNamePath_named hordered
      (.string name) hread hvalue'
  obtain ⟨fields, hreference⟩ := ControlPlane.exists_fields_of_modify? hbody
  obtain ⟨fields', hfields', hreference'⟩ := ControlPlane.reference?_modify? hreference hbody
  obtain ⟨-, new, -, hnew, hname⟩ := Json.Fields.get?_modify? hfields'
  cases hnew
  rw [ofJson?_of_ordered hordered' hobject'] at hread'
  cases hread'
  exact ⟨fields, fields', hreference, hreference', hname, rfl⟩

/-- A control plane to which the patch for a template can be applied is then read with that
template. -/
theorem describes_of_patched? {d d' : Document} {plane : ControlPlane} {name : String}
    (hplane : ControlPlane.Describes d.object plane)
    (h : d.patched? (ControlPlane.templatePatch name) = some d') :
    ControlPlane.Describes d'.object (plane.repointed name) := by
  obtain ⟨fields, -, hreference, -⟩ := of_patched? h
  obtain ⟨d'', -, hpatched, -, hdescribed, -⟩ := exists_repointed hplane hreference name
  rw [h] at hpatched
  cases hpatched
  exact hdescribed

end Document

/-! ## Registries -/

structure Registry where
  controlPlanes : List Document
  templates : List (ResourceKind × Resource)

/-- How the server names what is created, and which version it gives to an object that was submitted
without one. The name is not that of another object of the kind in the namespace. -/
structure Naming where
  name : Registry → ResourceKind → Resource → String
  version : Registry → ResourceKind → Resource → Option String
  unused : ∀ g kind template other, (kind, other) ∈ g.templates →
    other.metadata.namespace_ = template.metadata.namespace_ →
    other.metadata.name ≠ some (name g kind template)

namespace Registry

def isMeant (reference : TemplateReference) (t : ResourceKind × Resource) : Bool :=
  t.1 == reference.resourceKind && isNamed reference.namespaceText reference.name t.2

def find? (reference : TemplateReference) (g : Registry) : Option Resource :=
  (g.templates.find? (isMeant reference)).map (·.2)

/-- What is stored of a submitted template. -/
def stored (naming : Naming) (g : Registry) (kind : ResourceKind) (template : Resource) :
    Resource :=
  { template with
    metadata := { template.metadata with
      name := some (naming.name g kind template)
      resourceVersion := template.metadata.resourceVersion.or
        (naming.version g kind template) } }

def unprocessable : Failure :=
  .refused ⟨"Failure", "the patch cannot be applied", "Invalid", 422⟩

/-- Documents, the first of which that has the given namespace and name is patched. -/
def patchFirst (namespace_ name : String) (patch : Json.Patch) :
    List Document → Except Failure (List Document)
  | [] => .error (.notFound name)
  | d :: rest =>
    if isNamed namespace_ name d.object then
      match d.patched? patch with
      | some d' => .ok (d' :: rest)
      | none => .error unprocessable
    else (patchFirst namespace_ name patch rest).map (d :: ·)

def respond (naming : Naming) : (call : Call) → Registry → call.Answer × Registry
  | .listControlPlanes, g => (.ok (g.controlPlanes.map (·.object)), g)
  | .getTemplate reference, g =>
    match g.find? reference with
    | some template => (.ok template, g)
    | none => (.error ((Call.getTemplate reference).failure (.notFound reference.name)), g)
  | .createTemplate reference template, g =>
    let template := g.stored naming reference.resourceKind template
    (.ok template, { g with templates := g.templates ++ [(reference.resourceKind, template)] })
  | .patchControlPlane plane patch, g =>
    match patchFirst plane.namespace_ plane.name patch g.controlPlanes with
    | .ok controlPlanes => (.ok (), { g with controlPlanes := controlPlanes })
    | .error cause => (.error ((Call.patchControlPlane plane patch).failure cause), g)

/-! ## Lookups -/

theorem isNamed_iff {namespace_ name : String} {r : Resource} :
    isNamed namespace_ name r = true ↔
      r.metadata.namespace_ = some namespace_ ∧ r.metadata.name = some name := by
  simp [isNamed]

variable {g : Registry} {reference : TemplateReference} {template : Resource}

/-- A template is meant by its kind, its namespace and its name together. -/
theorem isMeant_iff {t : ResourceKind × Resource} :
    isMeant reference t = true ↔
      t.1 = reference.resourceKind ∧
        t.2.metadata.namespace_ = some reference.namespaceText ∧
        t.2.metadata.name = some reference.name := by
  rw [isMeant, Bool.and_eq_true, beq_iff_eq, isNamed_iff]

/-- A template that is found is the one that the reference names. -/
theorem of_find? (h : g.find? reference = some template) :
    template.metadata.namespace_ = some reference.namespaceText ∧
      template.metadata.name = some reference.name := by
  obtain ⟨t, hfound, rfl⟩ := Option.map_eq_some_iff.mp h
  exact (isMeant_iff.mp (List.find?_some hfound)).2

/-- A template that was created in the namespace of a reference is found under its new name, because
no other object of its kind has that name there. -/
theorem find?_created (naming : Naming)
    (hnamespace : template.metadata.namespace_ = some reference.namespaceText) :
    find? (reference.renamed (naming.name g reference.resourceKind template))
        { g with templates := g.templates ++
            [(reference.resourceKind, g.stored naming reference.resourceKind template)] } =
      some (g.stored naming reference.resourceKind template) := by
  have hothers : g.templates.find? (isMeant
      (reference.renamed (naming.name g reference.resourceKind template))) = none := by
    rw [List.find?_eq_none]
    rintro ⟨kind, other⟩ hmem hmeant
    obtain ⟨rfl, hother, hname⟩ := isMeant_iff.mp hmeant
    exact naming.unused g _ template other hmem (hother.trans hnamespace.symm) hname
  rw [find?, List.find?_append, hothers, Option.none_or,
    List.find?_cons_of_pos (isMeant_iff.mpr ⟨rfl, hnamespace, rfl⟩)]
  rfl

/-! ## Answers -/

theorem respond_getTemplate (naming : Naming) (h : g.find? reference = some template) :
    respond naming (.getTemplate reference) g = (.ok template, g) := by
  rw [respond, h]

/-- A control plane that comes first is patched. -/
theorem respond_patchControlPlane (naming : Naming) {d d' : Document} {rest : List Document}
    {plane : ControlPlane} {patch : Json.Patch} (hfirst : g.controlPlanes = d :: rest)
    (hnamed : isNamed plane.namespace_ plane.name d.object = true)
    (hpatched : d.patched? patch = some d') :
    respond naming (.patchControlPlane plane patch) g =
      (.ok (), { g with controlPlanes := d' :: rest }) := by
  rw [respond, hfirst, patchFirst, if_pos hnamed, hpatched]

end Registry

end CertRenewal.Machines
