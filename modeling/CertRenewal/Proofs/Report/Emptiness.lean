import CertRenewal.Proofs.Expiry.Widening
import CertRenewal.Proofs.Report.Table
import CertRenewal.Proofs.Text.Utf8
import Mathlib.Tactic.TFAE

/-!
# All formats are empty together

YAML and JSON are left out when the lists of a report are empty, and the table writes nothing when
no certificate is in them. The two differ on a report with an empty group. `Populated` excludes
these, and `populated_expiring` is where every report of a check gets it from: a source is left out
when none of its certificates is kept.

`formats_agree_on_emptiness` is the main statement. It says of the listings that a check has read
that no format has any text exactly when nothing in scope expires soon.
-/

namespace CertRenewal

namespace Report

/-- Every group of a report has a certificate. -/
structure Populated (r : Report) : Prop where
  tlsSecrets : ∀ s ∈ r.tlsSecrets, s.certificates ≠ []
  kubeconfigs : ∀ s ∈ r.kubeconfigs, s.clusters ≠ [] ∨ s.users ≠ []
  nodes : ∀ n ∈ r.nodes, n.certificates ≠ []

/-! ## Groups and certificates -/

theorem TlsSecret.sightings_eq_nil_iff {s : TlsSecret} :
    s.sightings = [] ↔ s.certificates = [] :=
  List.map_eq_nil_iff

/-- A kubeconfig lists nothing when neither its clusters nor its users do. -/
theorem KubeconfigSecret.sightings_eq_nil_iff {s : KubeconfigSecret} :
    s.sightings = [] ↔ s.clusters = [] ∧ s.users = [] := by
  rw [sightings, List.append_eq_nil_iff, List.map_eq_nil_iff, List.map_eq_nil_iff]

theorem NodeCertificates.sightings_eq_nil_iff {n : NodeCertificates} :
    n.sightings = [] ↔ n.certificates = [] :=
  List.map_eq_nil_iff

theorem KubeconfigSecret.sightings_ne_nil_iff {s : KubeconfigSecret} :
    s.sightings ≠ [] ↔ s.clusters ≠ [] ∨ s.users ≠ [] := by
  rw [ne_eq, sightings_eq_nil_iff, not_and_or]

/-- The groups that are left of a report are not empty. -/
theorem populated_expiring (d : Expiry.Deadline) (r : Report) : (r.expiring d).Populated where
  tlsSecrets s hs :=
    mt TlsSecret.sightings_eq_nil_iff.mpr (by simpa using (List.mem_filter.mp hs).2)
  kubeconfigs s hs :=
    KubeconfigSecret.sightings_ne_nil_iff.mp (by simpa using (List.mem_filter.mp hs).2)
  nodes n hn :=
    mt NodeCertificates.sightings_eq_nil_iff.mpr (by simpa using (List.mem_filter.mp hn).2)

/-- Groups that are not empty are none when nothing is in them. -/
theorem flatMap_eq_nil_iff_of_ne {α β : Type} {f : α → List β} {l : List α}
    (h : ∀ a ∈ l, f a ≠ []) : l.flatMap f = [] ↔ l = [] := by
  rw [List.flatMap_eq_nil_iff]
  constructor
  · intro hnone
    exact List.eq_nil_iff_forall_not_mem.mpr fun a ha => h a ha (hnone a ha)
  · rintro rfl a ha
    exact absurd ha List.not_mem_nil

/-- The lists of a report without empty groups are empty when no certificate is in them. -/
theorem Populated.isEmpty_iff {r : Report} (h : r.Populated) :
    r.isEmpty = true ↔ r.sightings = [] := by
  have htls := flatMap_eq_nil_iff_of_ne (f := TlsSecret.sightings) fun s hs =>
    mt TlsSecret.sightings_eq_nil_iff.mp (h.tlsSecrets s hs)
  have hkubeconfigs := flatMap_eq_nil_iff_of_ne (f := KubeconfigSecret.sightings) fun s hs =>
    KubeconfigSecret.sightings_ne_nil_iff.mpr (h.kubeconfigs s hs)
  have hnodes := flatMap_eq_nil_iff_of_ne (f := NodeCertificates.sightings) fun n hn =>
    mt NodeCertificates.sightings_eq_nil_iff.mp (h.nodes n hn)
  rw [sightings, List.append_eq_nil_iff, List.append_eq_nil_iff, htls, hkubeconfigs, hnodes,
    isEmpty, Bool.and_eq_true, Bool.and_eq_true, List.isEmpty_iff, List.isEmpty_iff,
    List.isEmpty_iff]

/-! ## The formats -/

namespace Table

/-- Nothing is written only when there are no rows. -/
theorem rowsText_eq_nil_iff {s : Section} {rows : List Row} :
    rowsText s false rows = [] ↔ rows = [] := by
  cases rows with
  | nil => simp [rowsText]
  | cons row rest => simp [rowsText, header]

/-- A table has a row for every certificate, so it has no text when there is none. -/
theorem layout_eq_nil_iff {r : Report} : layout r = [] ↔ r.sightings = [] := by
  have htls : r.tlsSecrets.flatMap tlsRows = [] ↔ r.tlsSecrets.flatMap (·.sightings) = [] := by
    simp only [List.flatMap_eq_nil_iff, tlsRows, TlsSecret.sightings, List.map_eq_nil_iff]
  have hkubeconfigs : r.kubeconfigs.flatMap kubeconfigRows = [] ↔
      r.kubeconfigs.flatMap (·.sightings) = [] := by
    simp only [List.flatMap_eq_nil_iff, kubeconfigRows, KubeconfigSecret.sightings,
      List.append_eq_nil_iff, List.map_eq_nil_iff]
  have hnodes : r.nodes.flatMap nodeRows = [] ↔ r.nodes.flatMap (·.sightings) = [] := by
    simp only [List.flatMap_eq_nil_iff, nodeRows, NodeCertificates.sightings, List.map_eq_nil_iff]
  rw [layout, List.append_eq_nil_iff, List.append_eq_nil_iff, rowsText_eq_nil_iff,
    rowsText_eq_nil_iff, rowsText_eq_nil_iff, htls, hkubeconfigs, hnodes, sightings,
    List.append_eq_nil_iff, List.append_eq_nil_iff]

end Table

theorem render_yaml (r : Report) :
    r.render .yaml = if r.isEmpty then [] else Text.Utf8.encode r.yamlText := by
  rw [render, write]
  split <;> rfl

theorem render_json (r : Report) :
    r.render .json = if r.isEmpty then [] else Text.Utf8.encode r.jsonText := by
  rw [render, write]
  split <;> rfl

theorem listField_eq_nil_iff {key : String} {items : List Json} :
    listField key items = [] ↔ items = [] := by
  cases items with
  | nil => simp [listField]
  | cons item rest => simp [listField]

/-- A mapping with fields has a text. -/
theorem fieldsText_ne_nil {indent : Nat} {fields : Json.Fields} (h : fields ≠ []) :
    Yaml.fieldsText indent fields ≠ [] := by
  match fields, h with
  | [(key, value)], _ => simp [Yaml.fieldsText]
  | (key, value) :: field :: rest, _ => simp [Yaml.fieldsText]

/-- There is a key in the text of a report with a list that is not empty. -/
theorem yamlText_ne_nil {r : Report} (h : r.isEmpty = false) : r.yamlText ≠ [] := by
  refine fieldsText_ne_nil fun hfields => ?_
  rw [toJson, Json.fields, List.append_eq_nil_iff, List.append_eq_nil_iff, listField_eq_nil_iff,
    listField_eq_nil_iff, listField_eq_nil_iff, List.map_eq_nil_iff, List.map_eq_nil_iff,
    List.map_eq_nil_iff] at hfields
  obtain ⟨⟨htls, hkubeconfigs⟩, hnodes⟩ := hfields
  rw [isEmpty, htls, hkubeconfigs, hnodes] at h
  cases h

theorem jsonText_ne_nil (r : Report) : r.jsonText ≠ [] := by
  rw [jsonText]
  exact List.append_ne_nil_of_right_ne_nil _ (List.cons_ne_nil _ _)

/-- The table has no text when the report has no certificates, however its groups are. -/
theorem render_table_eq_nil_iff {r : Report} : r.render .table = [] ↔ r.sightings = [] := by
  rw [render_table, Text.Utf8.encode_eq_nil_iff, Table.layout_eq_nil_iff]

theorem render_yaml_eq_nil_iff {r : Report} : r.render .yaml = [] ↔ r.isEmpty = true := by
  rw [render_yaml]
  cases hempty : r.isEmpty with
  | true => simp
  | false => simpa [Text.Utf8.encode_eq_nil_iff] using yamlText_ne_nil hempty

theorem render_json_eq_nil_iff {r : Report} : r.render .json = [] ↔ r.isEmpty = true := by
  rw [render_json]
  cases hempty : r.isEmpty with
  | true => simp
  | false => simpa [Text.Utf8.encode_eq_nil_iff] using jsonText_ne_nil r

/-- A report with an empty group is an empty table, but not an empty document. -/
example : (Report.mk [⟨"s", "n", []⟩] [] []).render .table = [] ∧
    (Report.mk [⟨"s", "n", []⟩] [] []).render .json ≠ [] := by
  decide +kernel

end Report

namespace Expiry

/-! ## The check -/

/-- A check that succeeds has read its three listings, and reports what its deadline keeps of all
that is found in them. -/
theorem report_eq_of_ok {l : Listings} {d : Deadline} {report : Report}
    (h : l.result d = .ok report) :
    ∃ tls secrets nodes, l = ⟨.ok tls, .ok secrets, .ok nodes⟩ ∧
      report = (found tls secrets nodes).expiring d := by
  have hsound : Sound l.scan := (l.reported d).ok_iff.mp ⟨report, h⟩
  obtain ⟨tls, secrets, nodes, rfl, hreadable⟩ := readable_of_sound hsound
  have hresult := Listings.result_of_readable d hreadable
  exact ⟨tls, secrets, nodes, rfl, Except.ok.inj (h.symm.trans hresult)⟩

/-- No certificate is reported exactly when none in scope expires soon. -/
theorem sightings_expiring_eq_nil_iff {d : Deadline} {tls secrets : List Cluster.Secret}
    {nodes : List Cluster.Node} :
    ((found tls secrets nodes).expiring d).sightings = [] ↔
      ∀ x, InScope tls secrets nodes x → d.threshold.expiresSoon x.expiry d.now = false := by
  rw [Report.sightings_expiring, List.filter_eq_nil_iff]
  refine forall_congr' fun x => ?_
  rw [mem_sightings_found_iff, Bool.not_eq_true]
  rfl

/-- Every group of a report that a check gives has a certificate. The report lists nothing, its
table is empty, its YAML is empty and its JSON is empty in the same cases, which are those in which
no certificate that the three listings put in scope expires soon. -/
theorem formats_agree_on_emptiness {σ : Type}
    (client : (call : Inventory.Call) → σ → call.Answer × σ) (pause : Nat → σ → σ) (d : Deadline)
    (s : σ) (report : Report) (h : ((check d).run client pause s).1 = .ok report) :
    report.Populated ∧
      ∃ tls secrets nodes, Listings.ofClient client s = ⟨.ok tls, .ok secrets, .ok nodes⟩ ∧
        List.TFAE
          [report.isEmpty = true,
            report.render .table = [],
            report.render .yaml = [],
            report.render .json = [],
            ∀ x, InScope tls secrets nodes x →
              d.threshold.expiresSoon x.expiry d.now = false] := by
  rw [(check_settled d client pause s).1] at h
  obtain ⟨tls, secrets, nodes, hlistings, rfl⟩ := report_eq_of_ok h
  have hpopulated := (found tls secrets nodes).populated_expiring d
  refine ⟨hpopulated, tls, secrets, nodes, hlistings, ?_⟩
  tfae_have 2 ↔ 5 := Report.render_table_eq_nil_iff.trans sightings_expiring_eq_nil_iff
  tfae_have 1 ↔ 2 := hpopulated.isEmpty_iff.trans Report.render_table_eq_nil_iff.symm
  tfae_have 3 ↔ 1 := Report.render_yaml_eq_nil_iff
  tfae_have 4 ↔ 1 := Report.render_json_eq_nil_iff
  tfae_finish

/-- What there is to report on the plain cluster: the node's certificate has years to go. -/
def plainReport : Report where
  tlsSecrets := [⟨"ingress", "default", [⟨"tls.crt", Instant.ofSeconds 1893456000⟩]⟩]
  kubeconfigs :=
    [⟨"workload-kubeconfig", "default",
      [⟨"workload", "CertificateAuthorityData", Instant.ofSeconds 1893456000⟩], []⟩]
  nodes := []

theorem tlsFound_plainTlsSecret :
    tlsFound plainTlsSecret =
      ⟨"ingress", "default", [⟨"tls.crt", Instant.ofSeconds 1893456000⟩]⟩ := by
  have hcertificate : keyFound plainTlsSecret "tls.crt" =
      some ⟨"tls.crt", Instant.ofSeconds 1893456000⟩ :=
    keyFound_eq_some_iff.mpr ⟨_, rfl, notAfter_plainPem, rfl⟩
  have hmissing : keyFound plainTlsSecret "ca.crt" = none := rfl
  rw [tlsFound, List.filterMap_cons_some hcertificate, List.filterMap_cons_none hmissing]
  rfl

theorem kubeconfigFound_plainKubeconfigSecret :
    kubeconfigFound plainKubeconfigSecret =
      ⟨"workload-kubeconfig", "default",
        [⟨"workload", "CertificateAuthorityData", Instant.ofSeconds 1893456000⟩], []⟩ := by
  have hentry : entryFound "CertificateAuthorityData" ⟨"workload", some plainData⟩ =
      some ⟨"workload", "CertificateAuthorityData", Instant.ofSeconds 1893456000⟩ :=
    entryFound_eq_some_iff.mpr ⟨_, rfl, embeddedExpiry?_plainData, rfl, rfl⟩
  rw [kubeconfigFound, kubeconfig?_plainKubeconfigSecret, Option.getD_some,
    List.filterMap_cons_some hentry]
  rfl

theorem nodeFound_plainNode :
    nodeFound plainNode = ⟨"master-0", [⟨"admin.conf", Instant.ofSeconds 2101987500⟩]⟩ := by
  have hannotation : annotation? plainNode =
      some "\x7badmin.conf: Aug 10, 2036 13:25 UTC\x7d" := rfl
  rw [nodeFound, hannotation, Option.bind_some, parse_plainNode]
  rfl

theorem found_plain :
    found [plainTlsSecret] [plainTlsSecret, plainKubeconfigSecret] [plainNode] =
      { plainReport with
        nodes := [⟨"master-0", [⟨"admin.conf", Instant.ofSeconds 2101987500⟩]⟩] } := by
  have hscope : [plainTlsSecret, plainKubeconfigSecret].filter
      (fun secret => decide (HoldsKubeconfig secret)) = [plainKubeconfigSecret] := by
    have htls : ¬HoldsKubeconfig plainTlsSecret := by decide
    have hkubeconfig : HoldsKubeconfig plainKubeconfigSecret := by decide
    simp [htls, hkubeconfig]
  simp only [found, hscope, List.map_cons, List.map_nil, tlsFound_plainTlsSecret,
    kubeconfigFound_plainKubeconfigSecret, nodeFound_plainNode, plainReport]

/-- A check that reports a TLS secret and a kubeconfig, and no node. -/
theorem formats_agree_on_plainReport :
    let store : Inventory.Store := ⟨[plainTlsSecret, plainKubeconfigSecret], [], [plainNode]⟩
    let d : Deadline := ⟨⟨30⟩, Instant.ofSeconds 1893450000⟩
    ((check d).run Inventory.Store.respond (fun _ s => s) store).1 = .ok plainReport ∧
      plainReport.Populated ∧
        ∃ tls secrets nodes,
          Listings.ofClient Inventory.Store.respond store = ⟨.ok tls, .ok secrets, .ok nodes⟩ ∧
          List.TFAE
            [plainReport.isEmpty = true,
              plainReport.render .table = [],
              plainReport.render .yaml = [],
              plainReport.render .json = [],
              ∀ x, InScope tls secrets nodes x →
                d.threshold.expiresSoon x.expiry d.now = false] := by
  intro store d
  have hexpiring : (found [plainTlsSecret] [plainTlsSecret, plainKubeconfigSecret]
      [plainNode]).expiring d = plainReport := by
    rw [found_plain]
    decide +kernel
  have hresult : ((check d).run Inventory.Store.respond (fun _ s => s) store).1 =
      .ok plainReport := by
    rw [run_check (fun _ s => s) d rfl rfl rfl readable_plain, hexpiring]
  exact ⟨hresult, formats_agree_on_emptiness Inventory.Store.respond (fun _ s => s) d store
    plainReport hresult⟩

end Expiry

end CertRenewal
