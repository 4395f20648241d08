import CertRenewal.Machines.ControlPlane
import CertRenewal.Proofs.Cluster.Resource
import CertRenewal.Proofs.Machines.Reference

/-!
# What a control plane is read as

`Describes` says what an object says about a control plane, field by field, and without the order in
which they are looked at. `ofResource_eq_ok_iff` is the equation with the reader: an object is read
exactly as what it describes.

`exists_repointed` follows a control plane whose reference is an object through a change of its
template: the patch can be applied to the document, and what is read afterwards differs in the name
of the template alone.
-/

namespace CertRenewal.Machines

/-! ## The namespace of a reference -/

/-- The namespace of a reference is absent, or there but empty. -/
def TemplateReference.LacksNamespace (r : TemplateReference) : Prop :=
  r.namespace_ = none ∨ r.namespace_ = some ""

/-- A namespace that is not given and an empty one are the same to the reader. -/
theorem TemplateReference.lacksNamespace_iff (r : TemplateReference) :
    r.LacksNamespace ↔ r.namespaceText = "" := by
  rw [TemplateReference.LacksNamespace, TemplateReference.namespaceText]
  cases r.namespace_ <;> simp

namespace ControlPlane

theorem withNamespace_of_lacking {r : TemplateReference} (namespace_ : String)
    (h : r.LacksNamespace) :
    withNamespace namespace_ r = { r with namespace_ := some namespace_ } :=
  if_pos (r.lacksNamespace_iff.mp h)

theorem withNamespace_of_own {r : TemplateReference} (namespace_ : String)
    (h : ¬ r.LacksNamespace) : withNamespace namespace_ r = r :=
  if_neg (mt r.lacksNamespace_iff.mpr h)

/-- An object describes a control plane: it has its name and namespace, and its reference is that of
the template, where the namespace of the object stands in for one that is absent or empty. -/
structure Describes (object : Cluster.Resource) (plane : ControlPlane) : Prop where
  name : object.metadata.name = some plane.name
  namespace_ : object.metadata.namespace_ = some plane.namespace_
  template : ∃ value reference, reference? object = some value ∧
    TemplateReference.ofJson value = .ok reference ∧
    (reference.LacksNamespace →
      plane.template = { reference with namespace_ := some plane.namespace_ }) ∧
    (¬ reference.LacksNamespace → plane.template = reference)

/-- What an object that is read as a control plane has. -/
theorem describes_of_ok {object : Cluster.Resource} {plane : ControlPlane}
    (h : ofResource object = .ok plane) : Describes object plane := by
  rw [ofResource] at h
  split at h
  · cases h
  · cases h
  · rename_i name namespace_ hname hnamespace
    split at h
    · cases h
    · rename_i value hvalue
      split at h
      · cases h
      · rename_i reference hreference
        cases h
        exact ⟨hname, hnamespace, value, reference, hvalue, hreference,
          withNamespace_of_lacking namespace_, withNamespace_of_own namespace_⟩

/-- An object is read as a control plane exactly when it describes it. -/
theorem ofResource_eq_ok_iff {object : Cluster.Resource} {plane : ControlPlane} :
    ofResource object = .ok plane ↔ Describes object plane := by
  constructor
  · exact describes_of_ok
  · rintro ⟨hname, hnamespace, value, reference, hvalue, hreference, hlacking, hown⟩
    have htemplate : plane.template = withNamespace plane.namespace_ reference := by
      by_cases hlacks : reference.LacksNamespace
      · rw [hlacking hlacks, withNamespace_of_lacking _ hlacks]
      · rw [hown hlacks, withNamespace_of_own _ hlacks]
    simp only [ofResource, hname, hnamespace, hvalue, hreference, ← htemplate]

end ControlPlane

/-! ## References that are objects -/

namespace ControlPlane

open CertRenewal.Cluster (Resource)
open CertRenewal.Json (Fields Ordered replaceAt getAt?)

def repointed (plane : ControlPlane) (name : String) : ControlPlane :=
  { plane with template := plane.template.renamed name }

/-- The patch puts the name at its path. -/
theorem applied?_templatePatch (name : String) (document : Json) :
    (templatePatch name).applied? document =
      replaceAt (.string name) templateNamePath document := by
  simp [templatePatch, Json.Patch.applied?, Json.Operation.applied?]

theorem templateNamePath_named : templateNamePath.Named := by
  intro key hkey
  simp only [templateNamePath, referencePath, List.cons_append, List.nil_append, List.mem_cons,
    List.not_mem_nil, or_false] at hkey
  obtain rfl | rfl | rfl := hkey <;> rfl

/-- The body of an object keeps its field of the key `spec`. -/
theorem kept_spec : Resource.Kept "spec" :=
  ⟨by decide, by simp [Cluster.TypeNames.IsKey]⟩

/-- The change of a name that is behind a reference is a change of the reference. -/
theorem reference?_modify? {object : Resource} {fields body' : Fields} {new : Json}
    (hreference : reference? object = some (.object fields))
    (h : Fields.modify? "spec" (replaceAt new ["infrastructureTemplate", "name"]) object.body =
      some body') :
    ∃ fields', Fields.modify? "name" (fun _ => some new) fields = some fields' ∧
      reference? { object with body := body' } = some (.object fields') := by
  have hnamed : Json.Path.Named ["infrastructureTemplate", "name"] :=
    fun key hkey => templateNamePath_named key (List.mem_cons_of_mem _ hkey)
  obtain ⟨spec, spec', hspec, hspec', hget⟩ := Fields.get?_modify? h
  obtain ⟨inner, inner', rfl, rfl, hinner⟩ := hnamed.replaceAt_cons hspec'
  obtain ⟨child, child', hchild, hchild', hget'⟩ := Fields.get?_modify? hinner
  rw [reference?, hspec, Option.bind_some, Json.get?, hchild] at hreference
  cases hreference
  obtain ⟨fields', hfields', rfl⟩ := Json.replaceAt_cons_object.mp hchild'
  refine ⟨fields', hfields', ?_⟩
  rw [reference?, hget, Option.bind_some, Json.get?, hget']

/-- A name can only be put behind a reference that is an object. -/
theorem exists_fields_of_modify? {object : Resource} {body' : Fields} {new : Json}
    (h : Fields.modify? "spec" (replaceAt new ["infrastructureTemplate", "name"]) object.body =
      some body') :
    ∃ fields, reference? object = some (.object fields) := by
  have hnamed : Json.Path.Named ["infrastructureTemplate", "name"] :=
    fun key hkey => templateNamePath_named key (List.mem_cons_of_mem _ hkey)
  obtain ⟨spec, spec', hspec, hspec', -⟩ := Fields.get?_modify? h
  obtain ⟨inner, inner', rfl, -, hinner⟩ := hnamed.replaceAt_cons hspec'
  obtain ⟨child, child', hchild, hchild', -⟩ := Fields.get?_modify? hinner
  obtain ⟨fields, -, rfl, -, -⟩ := hnamed.tail.replaceAt_cons hchild'
  refine ⟨fields, ?_⟩
  rw [reference?, hspec, Option.bind_some, Json.get?, hchild]

/-- The template of a control plane whose reference is an object is read from its fields. -/
theorem Describes.ofFields {object : Resource} {plane : ControlPlane} {fields : Fields}
    (h : Describes object plane) (hreference : reference? object = some (.object fields)) :
    ∃ reference, TemplateReference.ofFields fields = .ok reference ∧
      (reference.LacksNamespace →
        plane.template = { reference with namespace_ := some plane.namespace_ }) ∧
      (¬ reference.LacksNamespace → plane.template = reference) := by
  obtain ⟨value, reference, hvalue, hread, htemplate⟩ := h.template
  rw [hreference] at hvalue
  cases hvalue
  exact ⟨reference, hread, htemplate⟩

/-- The name in the reference is that of the template. -/
theorem Describes.get?_name {object : Resource} {plane : ControlPlane} {fields : Fields}
    (h : Describes object plane) (hreference : reference? object = some (.object fields)) :
    Fields.get? fields "name" = some (.string plane.template.name) := by
  obtain ⟨reference, hread, hlacking, hown⟩ := h.ofFields hreference
  have hname := (TemplateReference.ofFields_eq_ok_iff.mp hread).2.2.1
  by_cases hlacks : reference.LacksNamespace
  · rw [hlacking hlacks, hname]
  · rw [hown hlacks, hname]

/-- The reference is what is at its path. -/
theorem reference?_eq_getAt? (object : Resource) :
    reference? object = getAt? ["spec", "infrastructureTemplate"] (.object object.body) := by
  rw [reference?, getAt?]
  refine Option.bind_congr fun spec _ => ?_
  cases spec with
  | object fields => simp [Json.get?, getAt?]
  | array items => rfl
  | null => rfl
  | bool b => rfl
  | number n => rfl
  | string s => rfl

/-- The name of its template is at its path in the body of an object. -/
theorem getAt?_name_body {object : Resource} {plane : ControlPlane} {fields : Fields}
    (hplane : Describes object plane) (hreference : reference? object = some (.object fields)) :
    getAt? templateNamePath (.object object.body) = some (.string plane.template.name) := by
  rw [templateNamePath, Json.getAt?_append, referencePath, ← reference?_eq_getAt?, hreference,
    Option.bind_some]
  simp [getAt?, hplane.get?_name hreference]

/-- The name of its template is in the document of a control plane. -/
theorem getAt?_templateNamePath {document : Json} {object : Resource} {plane : ControlPlane}
    {fields : Fields} (hordered : Ordered document)
    (hread : Resource.ofJson? document = some object) (hplane : Describes object plane)
    (hreference : reference? object = some (.object fields)) :
    getAt? templateNamePath document = some (.string plane.template.name) :=
  (Resource.getAt?_body kept_spec hordered hread _).trans (getAt?_name_body hplane hreference)

/-- An object whose reference has another name describes the control plane with that template. -/
theorem Describes.repointed {object : Resource} {plane : ControlPlane} {fields fields' : Fields}
    {body' : Fields} {name : String} (h : Describes object plane)
    (hreference : reference? object = some (.object fields))
    (hchange : Fields.modify? "name" (fun _ => some (.string name)) fields = some fields')
    (hreference' : reference? { object with body := body' } = some (.object fields')) :
    Describes { object with body := body' } (plane.repointed name) := by
  obtain ⟨reference, hread, hlacking, hown⟩ := h.ofFields hreference
  refine ⟨h.name, h.namespace_, .object fields', reference.renamed name, hreference',
    TemplateReference.ofFields_renamed hread hchange, ?_, ?_⟩
  · intro hlacks
    rw [ControlPlane.repointed, hlacking hlacks]
    rfl
  · intro hlacks
    rw [ControlPlane.repointed, hown hlacks]

/-- The template of a control plane whose reference is an object can be changed in its document, and
then the control plane is read with the new template and is otherwise the same. -/
theorem exists_repointed {document : Json} {object : Resource} {plane : ControlPlane}
    {fields : Fields} (hordered : Ordered document)
    (hread : Resource.ofJson? document = some object) (hplane : Describes object plane)
    (hreference : reference? object = some (.object fields)) (name : String) :
    ∃ document' object' fields',
      replaceAt (.string name) templateNamePath document = some document' ∧
      Ordered document' ∧ Resource.ofJson? document' = some object' ∧
      Describes object' (plane.repointed name) ∧
      reference? object' = some (.object fields') := by
  obtain ⟨document', hdocument'⟩ :
      ∃ document', replaceAt (.string name) templateNamePath document = some document' :=
    Json.exists_replaceAt_iff.mpr
      ⟨_, getAt?_templateNamePath hordered hread hplane hreference⟩
  obtain ⟨hordered', body', hread', hbody⟩ :=
    Resource.ofJson?_replaceAt kept_spec templateNamePath_named hordered (.string name) hread
      hdocument'
  obtain ⟨fields', hfields', hreference'⟩ := reference?_modify? hreference hbody
  exact ⟨_, _, fields', hdocument', hordered', hread',
    hplane.repointed hreference hfields' hreference', hreference'⟩

end ControlPlane

end CertRenewal.Machines
