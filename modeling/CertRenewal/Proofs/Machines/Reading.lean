import CertRenewal.Proofs.Machines.ControlPlane

/-!
# Which objects are read as control planes

`Reading` lists what the reading of an object can come to, each with what it needs; the first
difficulty is the error. `ofResource_eq_iff` is the equation with the reader, so that the cases are
told apart once for all that is said about its errors.

`ofResource_outcomes` is the main statement. An object is read exactly when it has a name, a
namespace and a valid reference, its template then always has a namespace, and the object with this
template for its reference is read as the same control plane.
-/

namespace CertRenewal.Machines.ControlPlane

open CertRenewal.Cluster (Resource)
open CertRenewal.Json (Fields getAt? replaceAt)
open CertRenewal.Machines.TemplateReference (Refers)

/-! ## What a reading comes to -/

/-- What the reading of an object comes to. -/
inductive Reading (object : Resource) : Except Error ControlPlane → Prop where
  | unnamed (name : object.metadata.name = none) :
      Reading object (.error (.missingMetadata "name"))
  | unplaced (name : object.metadata.name ≠ none) (namespace_ : object.metadata.namespace_ = none) :
      Reading object (.error (.missingMetadata "namespace"))
  | unreferenced {n : String} (name : object.metadata.name = some n)
      (namespace_ : object.metadata.namespace_ ≠ none) (reference : reference? object = none) :
      Reading object (.error (.missingReference n))
  | invalid {n : String} {value : Json} {cause : TemplateReference.Error}
      (name : object.metadata.name = some n) (namespace_ : object.metadata.namespace_ ≠ none)
      (reference : reference? object = some value)
      (refused : TemplateReference.ofJson value = .error cause) :
      Reading object (.error (.invalidReference n cause))
  | read {n ns : String} {value : Json} {r : TemplateReference}
      (name : object.metadata.name = some n) (namespace_ : object.metadata.namespace_ = some ns)
      (reference : reference? object = some value) (refers : Refers value r) :
      Reading object (.ok ⟨n, ns, withNamespace ns r⟩)

/-- The reader comes to what the specification says of the object. -/
theorem reading_ofResource (object : Resource) : Reading object (ofResource object) := by
  rw [ofResource]
  split
  · rename_i hname
    exact .unnamed hname
  · rename_i hname hnamespace
    exact .unplaced (by simp [hname]) hnamespace
  · rename_i name namespace_ hname hnamespace
    split
    · rename_i hreference
      exact .unreferenced hname (by simp [hnamespace]) hreference
    · rename_i value hreference
      split
      · rename_i cause hrefused
        exact .invalid hname (by simp [hnamespace]) hreference hrefused
      · rename_i r hread
        exact .read hname hnamespace hreference (TemplateReference.ofJson_eq_ok_iff.mp hread)

/-- The reading of an object comes to one thing only. -/
theorem ofResource_eq_iff {object : Resource} {result : Except Error ControlPlane} :
    ofResource object = result ↔ Reading object result := by
  constructor
  · rintro rfl
    exact reading_ofResource object
  · intro h
    cases h with
    | unnamed hname => simp [ofResource, hname]
    | unplaced hname hnamespace =>
      obtain ⟨n, hname⟩ := Option.ne_none_iff_exists'.mp hname
      simp [ofResource, hname, hnamespace]
    | unreferenced hname hnamespace hreference =>
      obtain ⟨ns, hnamespace⟩ := Option.ne_none_iff_exists'.mp hnamespace
      simp [ofResource, hname, hnamespace, hreference]
    | invalid hname hnamespace hreference hrefused =>
      obtain ⟨ns, hnamespace⟩ := Option.ne_none_iff_exists'.mp hnamespace
      simp [ofResource, hname, hnamespace, hreference, hrefused]
    | read hname hnamespace hreference hrefers =>
      have hread := TemplateReference.ofJson_eq_ok_iff.mpr hrefers
      simp [ofResource, hname, hnamespace, hreference, hread]

/-- A value is refused exactly when it is no reference. -/
theorem exists_refused_iff {value : Json} :
    (∃ cause, TemplateReference.ofJson value = .error cause) ↔ ∀ r, ¬ Refers value r := by
  simp only [← TemplateReference.ofJson_eq_ok_iff]
  cases TemplateReference.ofJson value <;> simp

/-! ## The namespace of the template -/

/-- The namespace of a template is its own, and the given one if that is empty. -/
theorem withNamespace_eq (namespace_ : String) (r : TemplateReference) :
    withNamespace namespace_ r = { r with
      namespace_ := some (if r.namespaceText = "" then namespace_ else r.namespaceText) } := by
  by_cases h : r.namespaceText = ""
  · rw [withNamespace, if_pos h, if_pos h]
  · obtain ⟨apiVersion, kind, name, own⟩ := r
    cases own with
    | none => exact absurd rfl h
    | some own =>
      rw [withNamespace, if_neg h, if_neg h]
      rfl

/-- A template that has been given a namespace keeps it. -/
theorem withNamespace_withNamespace (namespace_ : String) (r : TemplateReference) :
    withNamespace namespace_ (withNamespace namespace_ r) = withNamespace namespace_ r := by
  by_cases h : r.namespaceText = ""
  · have hgiven : withNamespace namespace_ r = { r with namespace_ := some namespace_ } := if_pos h
    rw [hgiven, withNamespace]
    exact ite_self _
  · have hown : withNamespace namespace_ r = r := if_neg h
    rw [hown, hown]

/-! ## Each outcome -/

section

variable {object : Resource}

theorem ofResource_eq_ok {plane : ControlPlane} :
    ofResource object = .ok plane ↔
      object.metadata.name = some plane.name ∧
      object.metadata.namespace_ = some plane.namespace_ ∧
      ∃ value reference, reference? object = some value ∧ Refers value reference ∧
        plane.template = { reference with
          namespace_ := some (if reference.namespaceText = "" then plane.namespace_
            else reference.namespaceText) } := by
  rw [ofResource_eq_iff]
  constructor
  · rintro (_ | _ | _ | _ | ⟨hname, hnamespace, hreference, hrefers⟩)
    exact ⟨hname, hnamespace, _, _, hreference, hrefers, withNamespace_eq _ _⟩
  · rintro ⟨hname, hnamespace, value, reference, hreference, hrefers, htemplate⟩
    obtain ⟨name, namespace_, template⟩ := plane
    have hread := Reading.read hname hnamespace hreference hrefers
    rw [withNamespace_eq, ← htemplate] at hread
    exact hread

/-- A control plane is read from an object with a name, a namespace and a reference. -/
theorem exists_ofResource_eq_ok :
    (∃ plane, ofResource object = .ok plane) ↔
      object.metadata.name ≠ none ∧ object.metadata.namespace_ ≠ none ∧
      ∃ value reference, reference? object = some value ∧ Refers value reference := by
  simp only [ofResource_eq_iff]
  constructor
  · rintro ⟨_, _ | _ | _ | _ | ⟨hname, hnamespace, hreference, hrefers⟩⟩
    exact ⟨by simp [hname], by simp [hnamespace], _, _, hreference, hrefers⟩
  · rintro ⟨hname, hnamespace, value, reference, hreference, hrefers⟩
    obtain ⟨name, hname⟩ := Option.ne_none_iff_exists'.mp hname
    obtain ⟨namespace_, hnamespace⟩ := Option.ne_none_iff_exists'.mp hnamespace
    exact ⟨_, .read hname hnamespace hreference hrefers⟩

/-- The metadata that is missed is the first that is missing. -/
theorem Reading.missing {field : String} (h : Reading object (.error (.missingMetadata field))) :
    (field = "name" ∧ object.metadata.name = none) ∨
      (field = "namespace" ∧ object.metadata.name ≠ none ∧ object.metadata.namespace_ = none) := by
  cases h with
  | unnamed hname => exact Or.inl ⟨rfl, hname⟩
  | unplaced hname hnamespace => exact Or.inr ⟨rfl, hname, hnamespace⟩

/-- A missing name is reported whatever else is missing. -/
theorem ofResource_eq_unnamed :
    ofResource object = .error (.missingMetadata "name") ↔ object.metadata.name = none := by
  rw [ofResource_eq_iff]
  constructor
  · intro h
    obtain ⟨-, hname⟩ | ⟨hfield, -⟩ := h.missing
    · exact hname
    · exact absurd hfield (by decide)
  · exact .unnamed

/-- A missing namespace is reported when there is a name. -/
theorem ofResource_eq_unplaced :
    ofResource object = .error (.missingMetadata "namespace") ↔
      object.metadata.name ≠ none ∧ object.metadata.namespace_ = none := by
  rw [ofResource_eq_iff]
  constructor
  · intro h
    obtain ⟨hfield, -⟩ | ⟨-, hmetadata⟩ := h.missing
    · exact absurd hfield (by decide)
    · exact hmetadata
  · rintro ⟨hname, hnamespace⟩
    exact .unplaced hname hnamespace

/-- A missing reference is reported when there are both. -/
theorem ofResource_eq_unreferenced {name : String} :
    ofResource object = .error (.missingReference name) ↔
      object.metadata.name = some name ∧ object.metadata.namespace_ ≠ none ∧
      reference? object = none := by
  rw [ofResource_eq_iff]
  constructor
  · rintro (_ | _ | ⟨hname, hnamespace, hreference⟩)
    exact ⟨hname, hnamespace, hreference⟩
  · rintro ⟨hname, hnamespace, hreference⟩
    exact .unreferenced hname hnamespace hreference

/-- A reference that cannot be read is reported last. -/
theorem exists_ofResource_eq_invalid {name : String} :
    (∃ cause, ofResource object = .error (.invalidReference name cause)) ↔
      object.metadata.name = some name ∧ object.metadata.namespace_ ≠ none ∧
      ∃ value, reference? object = some value ∧ ∀ reference, ¬ Refers value reference := by
  simp only [ofResource_eq_iff, ← exists_refused_iff]
  constructor
  · rintro ⟨cause, _ | _ | _ | ⟨hname, hnamespace, hreference, hrefused⟩⟩
    exact ⟨hname, hnamespace, _, hreference, cause, hrefused⟩
  · rintro ⟨hname, hnamespace, value, hreference, cause, hrefused⟩
    exact ⟨cause, .invalid hname hnamespace hreference hrefused⟩

end

/-! ## Writing the template back -/

/-- An object that is read is read as before when its template is put in the place of its
reference. -/
theorem exists_rewritten {object : Resource} {plane : ControlPlane}
    (h : ofResource object = .ok plane) :
    ∃ body, replaceAt plane.template.toJson ["spec", "infrastructureTemplate"]
        (.object object.body) = some (.object body) ∧
      ofResource { object with body := body } = .ok plane := by
  cases ofResource_eq_iff.mp h with
  | @read n ns value r hname hnamespace hreference hrefers =>
    rw [reference?_eq_getAt?] at hreference
    obtain ⟨document, hdocument⟩ : ∃ document, replaceAt (withNamespace ns r).toJson
        ["spec", "infrastructureTemplate"] (.object object.body) = some document :=
      Json.exists_replaceAt_iff.mpr ⟨value, hreference⟩
    obtain ⟨body, -, rfl⟩ := Json.replaceAt_cons_object.mp hdocument
    refine ⟨body, hdocument, ofResource_eq_iff.mpr ?_⟩
    have hwritten : reference? { object with body := body } = some (withNamespace ns r).toJson := by
      rw [reference?_eq_getAt?]
      exact Json.getAt?_replaceAt hdocument
    have hagain : Reading { object with body := body }
        (.ok ⟨n, ns, withNamespace ns (withNamespace ns r)⟩) :=
      .read hname hnamespace hwritten
        (TemplateReference.ofJson_eq_ok_iff.mp (TemplateReference.ofJson_toJson _))
    rw [withNamespace_withNamespace] at hagain
    exact hagain

/-- An object is read exactly when it has a name and a namespace and there is a valid reference at
its path. Its template is then that of the reference, in the namespace of the reference or, if that
is empty or missing, in that of the object. Otherwise the error names the first of these that is
missing, or says that the reference is not valid. With its template for its reference an object is
read as before. -/
theorem ofResource_outcomes (object : Resource) :
    (∀ plane, ofResource object = .ok plane ↔
      object.metadata.name = some plane.name ∧
      object.metadata.namespace_ = some plane.namespace_ ∧
      ∃ value reference,
        getAt? ["spec", "infrastructureTemplate"] (.object object.body) = some value ∧
        Refers value reference ∧
        plane.template = { reference with
          namespace_ := some (if reference.namespaceText = "" then plane.namespace_
            else reference.namespaceText) }) ∧
    ((∃ plane, ofResource object = .ok plane) ↔
      object.metadata.name ≠ none ∧ object.metadata.namespace_ ≠ none ∧
      ∃ value reference,
        getAt? ["spec", "infrastructureTemplate"] (.object object.body) = some value ∧
        Refers value reference) ∧
    (ofResource object = .error (.missingMetadata "name") ↔ object.metadata.name = none) ∧
    (ofResource object = .error (.missingMetadata "namespace") ↔
      object.metadata.name ≠ none ∧ object.metadata.namespace_ = none) ∧
    (∀ name, ofResource object = .error (.missingReference name) ↔
      object.metadata.name = some name ∧ object.metadata.namespace_ ≠ none ∧
      getAt? ["spec", "infrastructureTemplate"] (.object object.body) = none) ∧
    (∀ name, (∃ cause, ofResource object = .error (.invalidReference name cause)) ↔
      object.metadata.name = some name ∧ object.metadata.namespace_ ≠ none ∧
      ∃ value, getAt? ["spec", "infrastructureTemplate"] (.object object.body) = some value ∧
        ∀ reference, ¬ Refers value reference) ∧
    ∀ plane, ofResource object = .ok plane →
      ∃ body, replaceAt plane.template.toJson ["spec", "infrastructureTemplate"]
          (.object object.body) = some (.object body) ∧
        ofResource { object with body := body } = .ok plane := by
  simp only [← reference?_eq_getAt?]
  exact ⟨fun plane => ofResource_eq_ok, exists_ofResource_eq_ok, ofResource_eq_unnamed,
    ofResource_eq_unplaced, fun name => ofResource_eq_unreferenced,
    fun name => exists_ofResource_eq_invalid, fun plane => exists_rewritten⟩

end CertRenewal.Machines.ControlPlane
