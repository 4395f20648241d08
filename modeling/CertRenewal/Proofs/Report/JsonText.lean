import CertRenewal.Proofs.Calendar
import CertRenewal.Proofs.Json.Pretty
import CertRenewal.Proofs.Report.Emptiness
import CertRenewal.Proofs.Text.Utf8

/-!
# A report in JSON loses nothing

A document is made of strings, arrays and objects, so its text tells the document
(`Json.Textual.eq_of_pretty`). The document tells the report: each certificate and each group is
told by its object, and a list that is left out was empty, since its key is looked up and not found
(`itemsAt_listField_append`). `render_json_eq_iff` is the main statement; the empty report, which
has no document, is the only one without a text.
-/

namespace CertRenewal.Report

/-! ## Certificates -/

/-- The text of an instant has all that the instant has. -/
theorem dateJson_injective : Function.Injective dateJson := by
  intro t t' h
  exact Instant.rfc3339Text_injective (String.ofList_injective (Json.string.inj h))

theorem Certificate.toJson_injective : Function.Injective Certificate.toJson := by
  rintro ⟨name, expiry⟩ ⟨name', expiry'⟩ h
  simp only [toJson, Json.object.injEq, List.cons.injEq, Prod.mk.injEq, Json.string.injEq,
    true_and, and_true] at h
  obtain ⟨rfl, hexpiry⟩ := h
  rw [dateJson_injective hexpiry]

theorem EntryCertificate.toJson_injective : Function.Injective EntryCertificate.toJson := by
  rintro ⟨entry, name, expiry⟩ ⟨entry', name', expiry'⟩ h
  simp only [toJson, Json.object.injEq, List.cons.injEq, Prod.mk.injEq, Json.string.injEq,
    true_and, and_true] at h
  obtain ⟨rfl, rfl, hexpiry⟩ := h
  rw [dateJson_injective hexpiry]

/-! ## Lists that may be left out -/

def itemsAt (key : String) (fields : Json.Fields) : List Json :=
  ((fields.get? key).map Json.items).getD []

theorem itemsAt_listField_append {key : String} {rest : Json.Fields} (h : rest.get? key = none)
    (items : List Json) : itemsAt key (listField key items ++ rest) = items := by
  rw [listField, itemsAt]
  cases items with
  | nil =>
    rw [List.isEmpty_nil, if_pos rfl, List.nil_append, h]
    rfl
  | cons item more =>
    rw [List.isEmpty_cons, if_neg Bool.false_ne_true, List.singleton_append, Json.Fields.get?,
      List.lookup_cons, beq_self_eq_true]
    rfl

/-- A list that may be left out is told by the fields that are there, when no other field has its
key. -/
theorem listField_append_inj {key : String} {items items' : List Json} {rest rest' : Json.Fields}
    (hrest : rest.get? key = none) (hrest' : rest'.get? key = none)
    (h : listField key items ++ rest = listField key items' ++ rest') :
    items = items' ∧ rest = rest' := by
  have hitems : items = items' := by
    rw [← itemsAt_listField_append hrest items, h, itemsAt_listField_append hrest']
  subst hitems
  exact ⟨rfl, List.append_cancel_left h⟩

/-- A list that is left out is the empty one. -/
theorem listField_injective (key : String) : Function.Injective (listField key) := by
  intro items items' h
  have hends : listField key items ++ [] = listField key items' ++ [] := by rw [h]
  exact (listField_append_inj rfl rfl hends).1

theorem get?_listField_append {key other : String} (h : key ≠ other) (items : List Json)
    (rest : Json.Fields) : (listField other items ++ rest).get? key = rest.get? key := by
  rw [listField]
  split
  · rfl
  · rw [List.singleton_append, Json.Fields.get?, List.lookup_cons, beq_false_of_ne h]
    rfl

theorem get?_listField {key other : String} (h : key ≠ other) (items : List Json) :
    (listField other items).get? key = none := by
  rw [← List.append_nil (listField other items), get?_listField_append h]
  rfl

/-! ## Groups -/

theorem TlsSecret.toJson_injective : Function.Injective TlsSecret.toJson := by
  rintro ⟨name, namespace_, certificates⟩ ⟨name', namespace', certificates'⟩ h
  simp only [toJson, Json.object.injEq, List.cons.injEq, Prod.mk.injEq, Json.string.injEq,
    Json.array.injEq, true_and, and_true] at h
  obtain ⟨rfl, rfl, hcertificates⟩ := h
  rw [Certificate.toJson_injective.list_map hcertificates]

theorem NodeCertificates.toJson_injective : Function.Injective NodeCertificates.toJson := by
  rintro ⟨name, certificates⟩ ⟨name', certificates'⟩ h
  simp only [toJson, Json.object.injEq, List.cons.injEq, Prod.mk.injEq, Json.string.injEq,
    Json.array.injEq, true_and, and_true] at h
  obtain ⟨rfl, hcertificates⟩ := h
  rw [Certificate.toJson_injective.list_map hcertificates]

theorem KubeconfigSecret.toJson_injective : Function.Injective KubeconfigSecret.toJson := by
  rintro ⟨name, namespace_, clusters, users⟩ ⟨name', namespace', clusters', users'⟩ h
  simp only [toJson, Json.object.injEq, List.cons_append, List.nil_append, List.cons.injEq,
    Prod.mk.injEq, Json.string.injEq, true_and] at h
  obtain ⟨rfl, rfl, hlists⟩ := h
  have hkeys : "Cluster" ≠ "User" := by decide
  obtain ⟨hclusters, husers⟩ :=
    listField_append_inj (get?_listField hkeys _) (get?_listField hkeys _) hlists
  rw [EntryCertificate.toJson_injective.list_map hclusters,
    EntryCertificate.toJson_injective.list_map (listField_injective _ husers)]

/-- A report is told by its document. -/
theorem toJson_injective : Function.Injective toJson := by
  rintro ⟨tlsSecrets, kubeconfigs, nodes⟩ ⟨tlsSecrets', kubeconfigs', nodes'⟩ h
  simp only [toJson, Json.object.injEq, List.append_assoc] at h
  have hfirst : ∀ a b, Json.Fields.get? (listField "Kubeconf" a ++ listField "NodeCert" b)
      "TlsSecret" = none := by
    intro a b
    rw [get?_listField_append (by decide), get?_listField (by decide)]
  have hkeys : "Kubeconf" ≠ "NodeCert" := by decide
  obtain ⟨htls, hothers⟩ := listField_append_inj (hfirst _ _) (hfirst _ _) h
  obtain ⟨hkubeconfigs, hnodes⟩ :=
    listField_append_inj (get?_listField hkeys _) (get?_listField hkeys _) hothers
  rw [TlsSecret.toJson_injective.list_map htls,
    KubeconfigSecret.toJson_injective.list_map hkubeconfigs,
    NodeCertificates.toJson_injective.list_map (listField_injective _ hnodes)]

/-! ## The document has only strings -/

section

open Json (Textual)

/-- A list of objects, whatever they are made of. -/
theorem textual_map {α : Type} {f : α → Json} (h : ∀ a, Textual (f a)) (l : List α) :
    ∀ value ∈ l.map f, Textual value :=
  List.forall_mem_map.mpr fun a _ => h a

theorem textual_listField {key : String} {items : List Json} (h : ∀ value ∈ items, Textual value) :
    ∀ field ∈ listField key items, Textual field.2 := by
  rw [listField]
  split
  · exact List.forall_mem_nil _
  · exact List.forall_mem_singleton.mpr (.array h)

theorem textual_pair {key key' : String} {v v' : Json} (h : Textual v) (h' : Textual v') :
    ∀ field ∈ [(key, v), (key', v')], Textual field.2 :=
  List.forall_mem_cons.mpr ⟨h, List.forall_mem_singleton.mpr h'⟩

theorem Certificate.textual_toJson (c : Certificate) : Textual c.toJson :=
  .object (textual_pair (.string _) (.string _))

theorem EntryCertificate.textual_toJson (c : EntryCertificate) : Textual c.toJson :=
  .object (List.forall_mem_cons.mpr ⟨.string _, textual_pair (.string _) (.string _)⟩)

theorem TlsSecret.textual_toJson (s : TlsSecret) : Textual s.toJson :=
  .object (List.forall_mem_cons.mpr
    ⟨.string _, textual_pair (.string _) (.array (textual_map (·.textual_toJson) _))⟩)

theorem KubeconfigSecret.textual_toJson (s : KubeconfigSecret) : Textual s.toJson :=
  .object (List.forall_mem_append.mpr
    ⟨List.forall_mem_append.mpr
        ⟨textual_pair (.string _) (.string _),
          textual_listField (textual_map (·.textual_toJson) _)⟩,
      textual_listField (textual_map (·.textual_toJson) _)⟩)

theorem NodeCertificates.textual_toJson (n : NodeCertificates) : Textual n.toJson :=
  .object (textual_pair (.string _) (.array (textual_map (·.textual_toJson) _)))

/-- A report is made of strings, arrays and objects only. -/
theorem textual_toJson (r : Report) : Textual r.toJson :=
  .object (List.forall_mem_append.mpr
    ⟨List.forall_mem_append.mpr
        ⟨textual_listField (textual_map (·.textual_toJson) _),
          textual_listField (textual_map (·.textual_toJson) _)⟩,
      textual_listField (textual_map (·.textual_toJson) _)⟩)

end

/-! ## The text -/

/-- Reports with the same text in JSON are the same. -/
theorem jsonText_injective : Function.Injective jsonText := by
  intro r r' h
  refine toJson_injective (r.textual_toJson.eq_of_pretty r'.textual_toJson ?_)
  exact List.append_cancel_right h

/-- Only one report is empty. -/
theorem eq_of_isEmpty {r r' : Report} (h : r.isEmpty = true) (h' : r'.isEmpty = true) : r = r' := by
  obtain ⟨tlsSecrets, kubeconfigs, nodes⟩ := r
  obtain ⟨tlsSecrets', kubeconfigs', nodes'⟩ := r'
  simp only [isEmpty, Bool.and_eq_true, List.isEmpty_iff] at h h'
  obtain ⟨⟨rfl, rfl⟩, rfl⟩ := h
  obtain ⟨⟨rfl, rfl⟩, rfl⟩ := h'
  rfl

/-- Two reports have the same text in JSON only when they are the same. -/
theorem render_json_eq_iff (r r' : Report) : r.render .json = r'.render .json ↔ r = r' := by
  refine ⟨fun h => ?_, fun h => by rw [h]⟩
  by_cases hempty : r.isEmpty = true
  · rw [render_json_eq_nil_iff.mpr hempty] at h
    exact eq_of_isEmpty hempty (render_json_eq_nil_iff.mp h.symm)
  · have hempty' : ¬ r'.isEmpty = true := by
      rw [← render_json_eq_nil_iff, ← h, render_json_eq_nil_iff]
      exact hempty
    rw [render_json, render_json, if_neg hempty, if_neg hempty'] at h
    exact jsonText_injective (Text.Utf8.encode_injective h)

end CertRenewal.Report
