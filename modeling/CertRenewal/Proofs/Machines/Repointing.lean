import CertRenewal.Proofs.Machines.Reading
import CertRenewal.Proofs.Machines.Registry

/-!
# Pointing a control plane at another template

The path that the patch for a template changes, the patch itself and the reader of control planes
agree. `exists_repointed_body` follows the change through the body of an object; what an object is
written as and what it has been read from contain this body, and both change as it does
(`repoints_toJson`, `exists_repointed_document`).

`templatePatch_repoints` is the main statement. It also says when the patch fails, for any document
at all.
-/

namespace CertRenewal.Machines.ControlPlane

open CertRenewal.Cluster (Resource)
open CertRenewal.Json (Fields getAt? replaceAt)

/-- The patch for a template makes one document of another: it can be applied, the name is then at
its path, and nothing else is different, except on the way to the name. -/
structure Repoints (name : String) (document document' : Json) : Prop where
  applied : (templatePatch name).applied? document = some document'
  found : getAt? ["spec", "infrastructureTemplate", "name"] document' = some (.string name)
  others : ∀ path, ¬ path <+: ["spec", "infrastructureTemplate", "name"] →
    getAt? path document' = getAt? path document

/-- Where there is a text at the path of the name, it is the only thing that changes. -/
theorem repoints_of_replaceAt {document document' : Json} {old name : String}
    (hold : getAt? templateNamePath document = some (.string old))
    (h : replaceAt (.string name) templateNamePath document = some document') :
    Repoints name document document' where
  applied := (applied?_templatePatch name document).trans h
  found := Json.getAt?_replaceAt h
  others _ hpath := Json.getAt?_replaceAt_of_string templateNamePath_named hold h hpath

section

variable {object : Resource} {plane : ControlPlane} {fields body : Fields} {name : String}

/-- The body of an object whose reference is an object can be changed so that the object is read
with another template, and otherwise as before. -/
theorem exists_repointed_body (hplane : Describes object plane)
    (hreference : reference? object = some (.object fields)) (name : String) :
    ∃ body, Fields.modify? "spec" (replaceAt (.string name) ["infrastructureTemplate", "name"])
        object.body = some body ∧
      Describes { object with body := body } (plane.repointed name) := by
  obtain ⟨document, hdocument⟩ :
      ∃ document, replaceAt (.string name) templateNamePath (.object object.body) = some document :=
    Json.exists_replaceAt_iff.mpr ⟨_, getAt?_name_body hplane hreference⟩
  obtain ⟨body, hbody, rfl⟩ := Json.replaceAt_cons_object.mp hdocument
  obtain ⟨fields', hfields', hreference'⟩ := reference?_modify? hreference hbody
  exact ⟨body, hbody, hplane.repointed hreference hfields' hreference'⟩

/-- What the object is written as changes with its body. -/
theorem repoints_toJson (hplane : Describes object plane)
    (hreference : reference? object = some (.object fields))
    (hbody : Fields.modify? "spec" (replaceAt (.string name) ["infrastructureTemplate", "name"])
      object.body = some body) :
    Repoints name object.toJson ({ object with body := body } : Resource).toJson := by
  have hold : getAt? templateNamePath object.toJson = some (.string plane.template.name) :=
    (Resource.getAt?_toJson kept_spec _ object).trans (getAt?_name_body hplane hreference)
  refine repoints_of_replaceAt hold ((Resource.replaceAt_toJson kept_spec _ _ object).trans ?_)
  simp [hbody]

/-- So does a document from which it has been read, which is then read as the changed object. -/
theorem exists_repointed_document (d : Document) (hplane : Describes d.object plane)
    (hreference : reference? d.object = some (.object fields))
    (hbody : Fields.modify? "spec" (replaceAt (.string name) ["infrastructureTemplate", "name"])
      d.object.body = some body) :
    ∃ d' : Document, Repoints name d.value d'.value ∧
      d'.object = { d.object with body := body } := by
  obtain ⟨value, hordered, object, hread⟩ := d
  have hold := getAt?_templateNamePath hordered hread hplane hreference
  obtain ⟨value', hvalue'⟩ :
      ∃ value', replaceAt (.string name) templateNamePath value = some value' :=
    Json.exists_replaceAt_iff.mpr ⟨_, hold⟩
  obtain ⟨hordered', body', hread', hbody'⟩ :=
    Resource.ofJson?_replaceAt kept_spec templateNamePath_named hordered (.string name) hread
      hvalue'
  obtain rfl : body' = body := Option.some.inj (hbody'.symm.trans hbody)
  exact ⟨⟨value', hordered', _, hread'⟩, repoints_of_replaceAt hold hvalue', rfl⟩

end

/-- Of two patches for templates the second one counts. -/
theorem applied?_templatePatch_twice (first second : String) (document : Json) :
    ((templatePatch first).applied? document).bind (templatePatch second).applied? =
      (templatePatch second).applied? document := by
  have hsecond : (templatePatch second).applied? = replaceAt (.string second) templateNamePath :=
    funext (applied?_templatePatch second)
  rw [applied?_templatePatch first, hsecond]
  cases h : replaceAt (.string first) templateNamePath document with
  | some document' => exact Json.replaceAt_replaceAt (.string second) h
  | none =>
    rw [Json.replaceAt_eq_none_iff] at h
    exact (Json.replaceAt_eq_none_iff.mpr h).symm

/-- The patch fails exactly where there is nothing at its path. Applied in place it then leaves the
document as it is. -/
theorem edit_templatePatch (name : String) (document : Json) :
    ((templatePatch name).applied? document = none ↔
      getAt? ["spec", "infrastructureTemplate", "name"] document = none) ∧
    ((templatePatch name).applied? document = none →
      (templatePatch name).edit document = (false, document)) ∧
    ∀ changed, (templatePatch name).applied? document = some changed →
      (templatePatch name).edit document = (true, changed) := by
  refine ⟨?_, fun h => ?_, fun changed => Json.Patch.edit_of_applied?⟩
  · rw [applied?_templatePatch]
    exact Json.replaceAt_eq_none_iff
  rw [applied?_templatePatch] at h
  have hoperation : (Json.Operation.replace templateNamePath (.string name)).applied? document =
      none := h
  exact Json.Patch.edit_of_fails hoperation []

/-- The patch for a template replaces what is at the path of the name. A control plane whose
reference is an object can be patched, and is read afterwards with the new name, as it was before in
everything else; that goes for the document as which it is written and for any that it is read from,
in which nothing else changes. Of two such patches only the second one counts. A document in which
there is nothing at the path, and no other, cannot be patched and is left as it is. -/
theorem templatePatch_repoints (name : String) :
    (templatePatch name).toJson =
      .array [.object [("op", .string "replace"),
        ("path", .string "/spec/infrastructureTemplate/name"), ("value", .string name)]] ∧
    (∀ object plane fields, ofResource object = .ok plane →
      getAt? ["spec", "infrastructureTemplate"] (.object object.body) = some (.object fields) →
      ∃ object', ofResource object' =
          .ok { plane with template := { plane.template with name := name } } ∧
        object'.types = object.types ∧ object'.metadata = object.metadata ∧
        Repoints name object.toJson object'.toJson ∧
        ∀ d : Document, d.object = object →
          ∃ d' : Document, Repoints name d.value d'.value ∧ d'.object = object') ∧
    (∀ first document,
      ((templatePatch first).applied? document).bind (templatePatch name).applied? =
        (templatePatch name).applied? document) ∧
    ∀ document,
      ((templatePatch name).applied? document = none ↔
        getAt? ["spec", "infrastructureTemplate", "name"] document = none) ∧
      ((templatePatch name).applied? document = none →
        (templatePatch name).edit document = (false, document)) ∧
      ∀ changed, (templatePatch name).applied? document = some changed →
        (templatePatch name).edit document = (true, changed) := by
  refine ⟨rfl, ?_, fun first => applied?_templatePatch_twice first name,
    edit_templatePatch name⟩
  intro object plane fields hread hreference
  rw [← reference?_eq_getAt?] at hreference
  have hplane := ofResource_eq_ok_iff.mp hread
  obtain ⟨body, hbody, hplane'⟩ := exists_repointed_body hplane hreference name
  refine ⟨{ object with body := body }, ofResource_eq_ok_iff.mpr hplane', rfl, rfl,
    repoints_toJson hplane hreference hbody, ?_⟩
  rintro d rfl
  exact exists_repointed_document d hplane hreference hbody

end CertRenewal.Machines.ControlPlane
