import CertRenewal.Json.Printer
import CertRenewal.Proofs.Rolling.Repetition
import CertRenewal.Proofs.Server.Site

/-!
# What a failed update leaves behind

An update that fails says what is to be cleaned up: nothing when the copy could not be created, and
the copy when the control plane could not be pointed at it. It knows of the server only what it is
told, and a server may have applied a request of which no object comes back. `failed_renewal` says
what is there instead: the copy is in use exactly when the patch was applied, and there is one
exactly when its creation was. `lost_answers` is about servers that apply a request and answer it
with nothing, first the patch and then the creation.
-/

namespace CertRenewal.Renewal.Rolling

open CertRenewal.Cluster (Failure Resource)
open CertRenewal.Machines (ControlPlane Document TemplateReference cloneTemplate)
open CertRenewal.Machines.ControlPlane (Describes reference?)
open CertRenewal.Server (Behaviour Collection Method Session Settled Site Untouched)

/-! ## The name in a reference -/

/-- The name in the reference of a control plane, whether or not the rest of it can be read. -/
def templateName? (r : Resource) : Option String :=
  match reference? r with
  | some (.object fields) => (Json.Fields.get? fields "name").bind Json.string?
  | some (.array (_ :: _ :: name :: _)) => name.string?
  | _ => none

/-- A control plane to which the patch for a template was applied refers to it. -/
theorem templateName?_of_patched {d d' : Document} {clone : String}
    (h : d.patched? (ControlPlane.templatePatch clone) = some d') :
    templateName? d'.object = some clone := by
  obtain ⟨fields, fields', -, hreference, hname, -⟩ := Document.of_patched? h
  rw [templateName?, hreference]
  simp [hname, Json.string?]

/-! ## The last question of an update that fails -/

section

variable {σ : Type} (client : (call : Machines.Call) → σ → call.Answer × σ) (s : σ)

/-- The state of a client that has been asked for the control plane and the template. -/
def stateRead (reference : TemplateReference) : σ :=
  (client (.getTemplate reference) (client .listControlPlanes s).2).2

variable {client s}

/-- An update whose copy could not be created ends with this question. -/
theorem exists_failed_creation {reference : TemplateReference} {cause : Machines.Error}
    (h : (renew.run client (fun _ s => s) s).1 = .error (.createTemplate reference cause)) :
    ∃ template,
      client (.createTemplate reference template) (stateRead client s reference) =
        (.error cause, (renew.run client (fun _ s => s) s).2) := by
  have hpass := pass_renew client (fun _ s => s) s
  rw [h] at hpass
  generalize htranscript : renew.transcript client (fun _ s => s) s = xs at hpass
  cases hpass with
  | @creationFails first others plane template _ hplane =>
    exact ⟨cloneTemplate template,
      CertRenewal.Dialogue.client_last client [_, _] htranscript⟩

/-- An update that could not point the control plane at the copy ends with this question, which
comes behind the creation of a template. -/
theorem exists_failed_patch {name clone : String} {cause : Machines.Error}
    (h : (renew.run client (fun _ s => s) s).1 =
      .error (.patchControlPlane name clone cause)) :
    ∃ plane template,
      client (.patchControlPlane plane (ControlPlane.templatePatch clone))
          (client (.createTemplate plane.template template)
            (stateRead client s plane.template)).2 =
        (.error cause, (renew.run client (fun _ s => s) s).2) := by
  have hpass := pass_renew client (fun _ s => s) s
  rw [h] at hpass
  generalize htranscript : renew.transcript client (fun _ s => s) s = xs at hpass
  cases hpass with
  | @patchFails first others plane template created _ _ hplane hname =>
    exact ⟨plane, cloneTemplate template,
      CertRenewal.Dialogue.client_last client [_, _, _] htranscript⟩

end

/-! ## Questions to a server -/

def outcome (b : Behaviour) (g : Site) : Except Error Summary × Session :=
  (renew.interpret Server.machines).run b.respond (fun _ s => s) (.start g)

section

variable (b : Behaviour)

def client (call : Machines.Call) (s : Session) : call.Answer × Session :=
  (Server.machines call).run b.respond (fun _ s => s) s

/-- An update over the server is the update with the server as its client. -/
theorem outcome_eq (g : Site) : outcome b g = renew.run (client b) (fun _ s => s) (.start g) :=
  Dialogue.run_interpret _ Server.machines b.respond renew (.start g)

/-- A listing changes nothing, even when it fails. -/
theorem untouched_listControlPlanes (s : Session) :
    Untouched s (client b .listControlPlanes s).2 := by
  rw [client, Server.machines, Collection.list]
  obtain ⟨_, -, hsettled⟩ := Server.settled_mapError b _ .get _ none _ _ s
  exact hsettled.of_get

theorem untouched_getTemplate (reference : TemplateReference) (s : Session) :
    Untouched s (client b (.getTemplate reference) s).2 := by
  rw [client, Server.machines, Collection.get]
  obtain ⟨_, -, hsettled⟩ := Server.settled_mapError b _ .get _ none _ _ s
  exact hsettled.of_get

/-- Reading the control plane and the template changes nothing. -/
theorem untouched_stateRead (reference : TemplateReference) (s : Session) :
    Untouched s (stateRead (client b) s reference) :=
  (untouched_listControlPlanes b s).trans (untouched_getTemplate b reference _)

/-- The answer to a creation comes from one request. -/
theorem settled_createTemplate (reference : TemplateReference) (template : Resource) (s : Session) :
    ∃ result : Except Failure Resource,
      (client b (.createTemplate reference template) s).1 =
        result.mapError (Machines.Call.createTemplate reference template).failure ∧
      Settled b .post (some ⟨Collection.objectType, template.toJson⟩) Resource.ofJson? s result
        (client b (.createTemplate reference template) s).2 := by
  rw [client, Server.machines, Collection.create]
  exact Server.settled_mapError b _ .post _ _ _ _ s

/-- Creating a template leaves the control planes. -/
theorem planes_of_creation (reference : TemplateReference) (template : Resource) {g : Site}
    {s : Session} (h : Untouched (.start g) s) :
    (client b (.createTemplate reference template) s).2.site.controlPlanes = g.controlPlanes ∧
      ¬ (client b (.createTemplate reference template) s).2.Changed .patch := by
  obtain ⟨result, -, hsettled⟩ := settled_createTemplate b reference template s
  generalize (client b (.createTemplate reference template) s).2 = s' at hsettled ⊢
  have hplanes : s.site.controlPlanes = g.controlPlanes := congrArg Site.controlPlanes h.site
  obtain hsame | ⟨r, t, hchanges, hmethod, hkept, -⟩ := hsettled.of_post
  · refine ⟨(congrArg Site.controlPlanes hsame.site).trans hplanes, ?_⟩
    rintro ⟨r, hr, -⟩
    rw [hsame.changes, h.changes] at hr
    cases hr
  · refine ⟨hkept.trans hplanes, ?_⟩
    rintro ⟨r', hr, hpatch⟩
    rw [hchanges, h.changes] at hr
    obtain rfl := List.mem_singleton.mp hr
    rw [hmethod] at hpatch
    cases hpatch

/-- The answer to a patch comes from one request, and tells nothing but its failure. -/
theorem settled_patchControlPlane (plane : ControlPlane) (patch : Json.Patch) (s : Session) :
    ∃ result : Except Failure Resource,
      (client b (.patchControlPlane plane patch) s).1 =
        (result.mapError (Machines.Call.patchControlPlane plane patch).failure).map
          (fun _ => ()) ∧
      Settled b .patch (some ⟨Collection.patchType, patch.toJson⟩) Resource.ofJson? s result
        (client b (.patchControlPlane plane patch) s).2 := by
  have hsettled := Server.settled_request b (fun _ s => s) .patch
    ((Server.controlPlanes (some plane.namespace_)).objectPath plane.name ++ ['?'])
    (some ⟨Collection.patchType, patch.toJson⟩) Resource.ofJson? s
  rw [client, Server.machines, Collection.patch, CertRenewal.Dialogue.run_bind]
  generalize Dialogue.run _ _ (Collection.request _ _ _ _) s = answer at hsettled ⊢
  obtain ⟨result, s'⟩ := answer
  refine ⟨result, ?_⟩
  cases result with
  | error failure => exact ⟨rfl, hsettled⟩
  | ok object => exact ⟨rfl, hsettled⟩

end

/-! ## What is left behind -/

section

variable {b : Behaviour} {g : Site}

/-- Behind an update that could not point the control plane at the copy, the last request was a
patch that failed, before which no control plane was changed. -/
theorem exists_settled_patch {name clone : String} {cause : Machines.Error}
    (h : (outcome b g).1 = .error (.patchControlPlane name clone cause)) :
    ∃ s failure, s.site.controlPlanes = g.controlPlanes ∧ ¬ s.Changed .patch ∧
      Settled b .patch (some ⟨Collection.patchType, (ControlPlane.templatePatch clone).toJson⟩)
        Resource.ofJson? s (.error failure) (outcome b g).2 := by
  rw [outcome_eq] at h ⊢
  obtain ⟨plane, template, hlast⟩ := exists_failed_patch h
  obtain ⟨hplanes, hunpatched⟩ := planes_of_creation b plane.template template
    (untouched_stateRead b plane.template (.start g))
  generalize (client b (.createTemplate plane.template template)
    (stateRead (client b) (.start g) plane.template)).2 = s at hlast hplanes hunpatched
  obtain ⟨result, hresult, hsettled⟩ :=
    settled_patchControlPlane b plane (ControlPlane.templatePatch clone) s
  rw [hlast] at hresult hsettled
  cases result with
  | error failure => exact ⟨s, failure, hplanes, hunpatched, hsettled⟩
  | ok object => cases hresult

/-- Behind an update whose copy could not be created, the last request was a creation that failed,
before which nothing was changed. -/
theorem exists_settled_creation {reference : TemplateReference} {cause : Machines.Error}
    (h : (outcome b g).1 = .error (.createTemplate reference cause)) :
    ∃ template s failure, Untouched (.start g) s ∧
      Settled b .post (some ⟨Collection.objectType, template⟩) Resource.ofJson? s (.error failure)
        (outcome b g).2 := by
  rw [outcome_eq] at h ⊢
  obtain ⟨template, hlast⟩ := exists_failed_creation h
  have hreads := untouched_stateRead b reference (.start g)
  generalize stateRead (client b) (.start g) reference = s at hlast hreads
  obtain ⟨result, hresult, hsettled⟩ := settled_createTemplate b reference template s
  rw [hlast] at hresult hsettled
  cases result with
  | error failure => exact ⟨template.toJson, s, failure, hreads, hsettled⟩
  | ok object => cases hresult

/-- A copy to which nothing referred before is referred to exactly when the patch was applied. -/
theorem clone_in_use_iff {name clone : String} {cause : Machines.Error}
    (h : (outcome b g).1 = .error (.patchControlPlane name clone cause))
    (hfree : ∀ d ∈ g.controlPlanes, templateName? d.object ≠ some clone) :
    (∃ d ∈ (outcome b g).2.site.controlPlanes, templateName? d.object = some clone) ↔
      (outcome b g).2.Changed .patch := by
  obtain ⟨s, failure, hplanes, hunpatched, hsettled⟩ := exists_settled_patch h
  generalize (outcome b g).2 = s' at hsettled ⊢
  obtain hsame | ⟨r, hchanges, hmethod, -, d, -, d', hd', hpatched⟩ := hsettled.of_patch
  · constructor
    · rintro ⟨d, hd, hname⟩
      rw [hsame.site, hplanes] at hd
      exact absurd hname (hfree d hd)
    · rintro ⟨r, hr, hmethod⟩
      rw [hsame.changes] at hr
      exact absurd ⟨r, hr, hmethod⟩ hunpatched
  · constructor
    · intro _
      exact ⟨r, hchanges ▸ List.mem_append_right _ (List.mem_singleton_self r), hmethod⟩
    · intro _
      exact ⟨d', hd', templateName?_of_patched hpatched⟩

/-- There is a new template exactly when the creation was applied. -/
theorem template_added_iff {reference : TemplateReference} {cause : Machines.Error}
    (h : (outcome b g).1 = .error (.createTemplate reference cause)) :
    (∃ t ∈ (outcome b g).2.site.templates, t ∉ g.templates) ↔ (outcome b g).2.Changed .post := by
  obtain ⟨template, s, failure, hreads, hsettled⟩ := exists_settled_creation h
  generalize (outcome b g).2 = s' at hsettled ⊢
  have hsite : s.site = g := hreads.site
  obtain hsame | ⟨r, t, hchanges, hmethod, -, htemplates, hnew⟩ := hsettled.of_post
  · constructor
    · rintro ⟨t, ht, hnew⟩
      rw [hsame.site, hsite] at ht
      exact absurd ht hnew
    · rintro ⟨r, hr, hmethod⟩
      rw [hsame.changes, hreads.changes] at hr
      cases hr
  · constructor
    · intro _
      exact ⟨r, hchanges ▸ List.mem_append_right _ (List.mem_singleton_self r), hmethod⟩
    · intro _
      refine ⟨t, ?_, hsite ▸ hnew⟩
      rw [htemplates]
      exact List.mem_append_right _ (List.mem_singleton_self t)

end

/-- What is there behind an update over a server. -/
structure Leftovers (b : Behaviour) (g : Site) : Prop where
  /-- When the control plane could not be pointed at a copy to which nothing referred before, the
  copy is referred to exactly when the patch was applied. -/
  clone : ∀ name clone cause, (outcome b g).1 = .error (.patchControlPlane name clone cause) →
    (∀ d ∈ g.controlPlanes, templateName? d.object ≠ some clone) →
    ((∃ d ∈ (outcome b g).2.site.controlPlanes, templateName? d.object = some clone) ↔
      (outcome b g).2.Changed .patch)
  /-- When the copy could not be created, there is a new template exactly when the creation was
  applied. -/
  template : ∀ reference cause, (outcome b g).1 = .error (.createTemplate reference cause) →
    ((∃ t ∈ (outcome b g).2.site.templates, t ∉ g.templates) ↔ (outcome b g).2.Changed .post)
  /-- A server that tells what it has done has then left the control planes as they were. -/
  clone_of_truthful : b.Truthful → ∀ name clone cause,
    (outcome b g).1 = .error (.patchControlPlane name clone cause) →
    (outcome b g).2.site.controlPlanes = g.controlPlanes
  /-- And it has added no template. -/
  template_of_truthful : b.Truthful → ∀ reference cause,
    (outcome b g).1 = .error (.createTemplate reference cause) →
    (outcome b g).2.site.templates = g.templates

/-- Whatever a server applies and answers, what is there behind an update that fails follows from
what the server has applied, and not from the error. The error is right about a server that tells
what it has done. -/
theorem failed_renewal (b : Behaviour) (g : Site) : Leftovers b g where
  clone _ _ _ h hfree := clone_in_use_iff h hfree
  template _ _ h := template_added_iff h
  clone_of_truthful htruthful name clone cause h := by
    obtain ⟨s, failure, hplanes, -, hsettled⟩ := exists_settled_patch h
    exact (congrArg Site.controlPlanes (hsettled.of_truthful htruthful).site).trans hplanes
  template_of_truthful htruthful reference cause h := by
    obtain ⟨template, s, failure, hreads, hsettled⟩ := exists_settled_creation h
    exact congrArg Site.templates (hreads.trans (hsettled.of_truthful htruthful)).site

/-! ## Answers that are lost -/

def namesInUse (g : Site) : List Char :=
  (g.templates.map fun t => (t.2.metadata.name.getD "").toList).flatten

/-- A server that names a template as it asks, and with more letters than all names in use. -/
def longerAcceptance : Server.Acceptance where
  stored g _ template :=
    { template with
      metadata := { template.metadata with
        name := some (template.metadata.generateName.getD "" ++
          String.ofList ('x' :: namesInUse g)) } }
  unused := by
    intro g path template
    refine ⟨_, rfl, ?_⟩
    intro other hmem hname
    have hlisted : (other.metadata.name.getD "").toList ∈
        g.templates.map fun t => (t.2.metadata.name.getD "").toList :=
      List.mem_map.mpr ⟨(path, other), hmem, rfl⟩
    have hlength : (other.metadata.name.getD "").toList.length ≤ (namesInUse g).length :=
      (List.sublist_flatten_of_mem hlisted).length_le
    rw [hname, Option.getD_some, String.toList_append, String.toList_ofList, List.length_append,
      List.length_cons] at hlength
    omega

/-- The cluster of the control plane and the template that it names. -/
def plainSite : Site :=
  ⟨[plainDocument],
    [((Server.templates plainControlPlane.template).path, plainTemplate "default")]⟩

def bytesOf (value : Json) : List UInt8 := Text.Utf8.encode value.render

/-- A server that applies every request and answers with the objects that it has, save the requests
of one method, to which it answers with nothing. -/
def losing (lost : Method) : Behaviour where
  acceptance := longerAcceptance
  applies _ _ := true
  answer r s :=
    if r.method = lost then ⟨200, []⟩
    else match r.method with
      | .get =>
        if r.address = (Server.controlPlanes none).path ++ ['?'] then
          ⟨200, bytesOf (.object [("metadata", .object []),
            ("items", .array (s.site.controlPlanes.map (·.value)))])⟩
        else ⟨200, bytesOf (plainTemplate "default").toJson⟩
      | .post =>
        ⟨201, (s.site.templates.getLast?.map fun t => bytesOf t.2.toJson).getD []⟩
      | .patch => ⟨200, (s.site.controlPlanes.head?.map fun d => bytesOf d.value).getD []⟩
      | .delete => ⟨200, []⟩

/-- The name of the copy of which an error says that nothing refers to it. -/
def unreferenced? : Except Error Summary → Option String
  | .error (.patchControlPlane _ clone _) => some clone
  | _ => none

/-- Whether an error says that no copy was created. -/
def saysUncreated : Except Error Summary → Bool
  | .error (.createTemplate _ _) => true
  | _ => false

theorem exists_of_unreferenced? {result : Except Error Summary} {clone : String}
    (h : unreferenced? result = some clone) :
    ∃ name cause, result = .error (.patchControlPlane name clone cause) := by
  match result, h with
  | .error (.patchControlPlane name clone cause), rfl => exact ⟨name, cause, rfl⟩

theorem exists_of_saysUncreated {result : Except Error Summary} (h : saysUncreated result = true) :
    ∃ reference cause, result = .error (.createTemplate reference cause) := by
  match result, h with
  | .error (.createTemplate reference cause), _ => exact ⟨reference, cause, rfl⟩

/-- When the answer to the patch is lost, the error says of a copy that nothing refers to it, and
the control plane does. When the answer to the creation is lost, the error says that there is no copy,
and there is one. -/
theorem lost_answers :
    (∃ name cause, (outcome (losing .patch) plainSite).1 =
        .error (.patchControlPlane name "machines-xmachines" cause)) ∧
    (∀ d ∈ plainSite.controlPlanes, templateName? d.object ≠ some "machines-xmachines") ∧
    (∃ d ∈ (outcome (losing .patch) plainSite).2.site.controlPlanes,
      templateName? d.object = some "machines-xmachines") ∧
    (∃ reference cause, (outcome (losing .post) plainSite).1 =
        .error (.createTemplate reference cause)) ∧
    ∃ t ∈ (outcome (losing .post) plainSite).2.site.templates, t ∉ plainSite.templates := by
  have hpatch : unreferenced? (outcome (losing .patch) plainSite).1 = some "machines-xmachines" ∧
      ∃ d ∈ (outcome (losing .patch) plainSite).2.site.controlPlanes,
        templateName? d.object = some "machines-xmachines" := by
    decide +kernel
  have hpost : saysUncreated (outcome (losing .post) plainSite).1 = true ∧
      ∃ r ∈ (outcome (losing .post) plainSite).2.changes, r.method = .post := by
    decide +kernel
  obtain ⟨reference, cause, hcreation⟩ := exists_of_saysUncreated hpost.1
  exact ⟨exists_of_unreferenced? hpatch.1, by decide, hpatch.2, ⟨reference, cause, hcreation⟩,
    (template_added_iff hcreation).mpr hpost.2⟩

end CertRenewal.Renewal.Rolling
