import CertRenewal.Proofs.Expiry.FirstFault
import CertRenewal.Proofs.Expiry.Threshold

/-!
# A wider deadline loses nothing

Two checks of the same listings ask the same questions and fail alike, since no fault depends on the
deadline. Where they succeed, each reports what its deadline keeps of all that is found, which
`Listings.result_of_sound` says without an assumption on what is listed; and a greater threshold or
a later time keeps more. `check_widens` is the main statement.
-/

namespace CertRenewal.Expiry

open CertRenewal.Cluster (Node Secret)

/-! ## What is sound can be read -/

/-- Where a certificate has no fault, it can be read. -/
theorem exists_notAfter {origin : String} {pem : List UInt8}
    (h : certificateFault? origin pem = none) : ∃ expiry, Certificate.notAfter pem = .ok expiry := by
  rw [← fault?_certificateExpiry, certificateExpiry, fault?_mapError, Option.map_eq_none_iff,
    fault?_eq_none_iff] at h
  exact h

theorem exists_embeddedExpiry? {origin data : String} (h : embeddedFault? origin data = none) :
    ∃ expiry, embeddedExpiry? data = some expiry := by
  rw [embeddedFault?] at h
  rw [embeddedExpiry?]
  cases hpem : Base64.decode (Text.Utf8.encode (Text.trim data.toList)) with
  | error cause => simp [hpem] at h
  | ok pem =>
    simp only [hpem] at h
    obtain ⟨expiry, hexpiry⟩ := exists_notAfter h
    refine ⟨expiry, ?_⟩
    simp [Except.toOption, hexpiry]

theorem exists_kubeconfig? {secret : Secret} (h : kubeconfigFault? secret = none) :
    ∃ kubeconfig, kubeconfig? secret = some kubeconfig := by
  rw [← fault?_kubeconfigOf, fault?_eq_none_iff] at h
  obtain ⟨kubeconfig, hkubeconfig⟩ := h
  exact ⟨kubeconfig, kubeconfig?_of_ok hkubeconfig⟩

/-- Where no entry of an annotation has a fault, all of them can be read. -/
theorem exists_annotations {node : Node} {value : String}
    (h : ∀ entry ∈ Annotations.entryTexts value.toList, (Item.date node entry).fault? = none) :
    ∃ entries, Annotations.parse value = .ok entries := by
  rw [← fault?_eq_none_iff, Annotations.parse, fault?_mapM, List.findSome?_eq_none_iff]
  intro entry hentry
  exact Option.map_eq_none_iff.mp (h entry hentry)

/-- A sound listing was not refused, and what it lists is sound. -/
theorem exists_found_of_sound {α : Type} {items : α → List Item}
    {answer : Except Inventory.Error (List α)} (h : Sound (listingItems items answer)) :
    ∃ found, answer = .ok found ∧ ∀ a ∈ found, Sound (items a) := by
  cases answer with
  | error cause => exact absurd (h _ List.mem_cons_self) (by simp [Item.fault?])
  | ok found =>
    refine ⟨found, rfl, fun a ha x hx => ?_⟩
    exact h x (List.mem_cons_of_mem _ (List.mem_flatMap.mpr ⟨a, ha, hx⟩))

theorem mem_entryItems {item : String → String → Item} {entries : List Kubeconfig.Entry}
    {e : Kubeconfig.Entry} {data : String} (he : e ∈ entries) (hdata : e.certificate = some data) :
    item e.name data ∈ entryItems item entries :=
  List.mem_filterMap.mpr ⟨e, he, by rw [hdata]; rfl⟩

/-- Where all that a check looks at is sound, all that is in scope can be read. -/
theorem readable_of_sound {l : Listings} (h : Sound l.scan) :
    ∃ tls secrets nodes, l = ⟨.ok tls, .ok secrets, .ok nodes⟩ ∧ Readable tls secrets nodes := by
  obtain ⟨hfirst, hthird⟩ := List.forall_mem_append.mp h
  obtain ⟨hfirst, hsecond⟩ := List.forall_mem_append.mp hfirst
  obtain ⟨tls, htls, htlsSound⟩ := exists_found_of_sound hfirst
  obtain ⟨owned, howned, hownedSound⟩ := exists_found_of_sound hsecond
  obtain ⟨nodes, hnodes, hnodesSound⟩ := exists_found_of_sound hthird
  obtain ⟨tlsAnswer, secretsAnswer, nodesAnswer⟩ := l
  cases secretsAnswer with
  | error cause => cases howned
  | ok secrets =>
    cases htls
    cases howned
    cases hnodes
    refine ⟨tls, secrets, nodes, rfl, ?_⟩
    refine { tls := ?tls, kubeconfigs := ?kubeconfigs, nodes := ?nodes }
    case tls =>
      intro secret hsecret key hkey pem hpem
      have hitem : Item.certificate secret key pem ∈ tlsItems secret :=
        List.mem_filterMap.mpr ⟨key, by simpa using hkey, by rw [hpem]; rfl⟩
      exact exists_notAfter (htlsSound secret hsecret _ hitem)
    case kubeconfigs =>
      intro secret hsecret hholds
      have hsound := hownedSound secret (List.mem_filter.mpr ⟨hsecret, decide_eq_true hholds⟩)
      obtain ⟨hkubeconfig, hentries⟩ := List.forall_mem_cons.mp hsound
      obtain ⟨kubeconfig, hfound⟩ := exists_kubeconfig? hkubeconfig
      rw [hfound] at hentries
      refine ⟨kubeconfig, hfound, fun e he data hdata => ?_⟩
      rcases List.mem_append.mp he with hcluster | huser
      · exact exists_embeddedExpiry?
          (hentries _ (List.mem_append_left _ (mem_entryItems hcluster hdata)))
      · exact exists_embeddedExpiry?
          (hentries _ (List.mem_append_right _ (mem_entryItems huser hdata)))
    case nodes =>
      intro node hnode value hvalue
      have hsound := hnodesSound node hnode
      rw [nodeItems, hvalue] at hsound
      exact exists_annotations fun entry hentry => hsound _ (List.mem_map_of_mem hentry)

theorem Listings.result_of_readable {tls secrets : List Secret} {nodes : List Node} (d : Deadline)
    (h : Readable tls secrets nodes) :
    (Listings.mk (.ok tls) (.ok secrets) (.ok nodes)).result d =
      .ok ((found tls secrets nodes).expiring d) := by
  rw [result, tlsResult, secretResult, nodeResult, listed, listed, listed, collect_tlsSecret d h,
    collect_kubeconfigSecret d h, collect_nodeCertificates d h]
  rfl

/-- Where all that a check looks at is sound, it reports what its deadline keeps of all that is
found. -/
theorem Listings.result_of_sound {l : Listings} (h : Sound l.scan) :
    ∃ all : Report, ∀ d, l.result d = .ok (all.expiring d) := by
  obtain ⟨tls, secrets, nodes, rfl, hreadable⟩ := readable_of_sound h
  exact ⟨found tls secrets nodes, fun d => result_of_readable d hreadable⟩

/-! ## What is reported -/

/-- Each section of a report lists all that the same section of another one does, in the same
order. -/
structure Within (r r' : Report) : Prop where
  tlsSecrets : (r.tlsSecrets.flatMap (·.sightings)).Sublist (r'.tlsSecrets.flatMap (·.sightings))
  kubeconfigs :
    (r.kubeconfigs.flatMap (·.sightings)).Sublist (r'.kubeconfigs.flatMap (·.sightings))
  nodes : (r.nodes.flatMap (·.sightings)).Sublist (r'.nodes.flatMap (·.sightings))

/-- A deadline that keeps more makes a longer report. -/
theorem within_expiring {d d' : Deadline}
    (h : ∀ expiry, d.reports expiry = true → d'.reports expiry = true) (r : Report) :
    Within (r.expiring d) (r.expiring d') where
  tlsSecrets := by
    rw [Report.tlsSightings_expiring, Report.tlsSightings_expiring]
    exact List.monotone_filter_right _ fun x => h x.expiry
  kubeconfigs := by
    rw [Report.kubeconfigSightings_expiring, Report.kubeconfigSightings_expiring]
    exact List.monotone_filter_right _ fun x => h x.expiry
  nodes := by
    rw [Report.nodeSightings_expiring, Report.nodeSightings_expiring]
    exact List.monotone_filter_right _ fun x => h x.expiry

/-- Two checks whose questions are answered alike, the second with a threshold that is not smaller
and at a time that is not earlier, have the same exchanges. Either they fail with the same error, or
each section of the first report is within that of the second. -/
theorem check_widens {σ σ' : Type} (client : (call : Inventory.Call) → σ → call.Answer × σ)
    (client' : (call : Inventory.Call) → σ' → call.Answer × σ') (pause : Nat → σ → σ)
    (pause' : Nat → σ' → σ') (s : σ) (s' : σ') (d d' : Deadline)
    (hanswers : Listings.ofClient client s = Listings.ofClient client' s')
    (hdays : d.threshold.days ≤ d'.threshold.days) (hnow : d.now.toNanos ≤ d'.now.toNanos) :
    (check d).transcript client pause s = (check d').transcript client' pause' s' ∧
    ((∃ e, ((check d).run client pause s).1 = .error e ∧
        ((check d').run client' pause' s').1 = .error e) ∨
      ∃ r r', ((check d).run client pause s).1 = .ok r ∧
        ((check d').run client' pause' s').1 = .ok r' ∧ Within r r') := by
  obtain ⟨hresult, hexchanges⟩ := check_settled d client pause s
  obtain ⟨hresult', hexchanges'⟩ := check_settled d' client' pause' s'
  rw [hresult, hexchanges, hresult', hexchanges', ← hanswers]
  refine ⟨rfl, ?_⟩
  generalize Listings.ofClient client s = l
  cases hfault : l.scan.findSome? Item.fault? with
  | some e =>
    left
    refine ⟨e, ?_, ?_⟩ <;> rw [← fault?_eq_some_iff, l.fault?_result, hfault]
  | none =>
    right
    obtain ⟨all, hall⟩ := Listings.result_of_sound (sound_iff.mpr hfault)
    refine ⟨_, _, hall d, hall d', within_expiring (fun expiry hreports => ?_) all⟩
    exact Threshold.expiresSoon_mono hdays hnow hreports

/-- A month in the place of a negative number of days, and some hours later. -/
theorem check_plain_widens :
    let store : Inventory.Store := ⟨[plainTlsSecret, plainKubeconfigSecret], [], [plainNode]⟩
    let narrow := check ⟨⟨-1⟩, Instant.ofSeconds 1893450000⟩
    let wide := check ⟨⟨30⟩, Instant.ofSeconds 1893459000⟩
    narrow.transcript Inventory.Store.respond (fun _ s => s) store =
      wide.transcript Inventory.Store.respond (fun _ s => s) store ∧
    ((∃ e, (narrow.run Inventory.Store.respond (fun _ s => s) store).1 = .error e ∧
        (wide.run Inventory.Store.respond (fun _ s => s) store).1 = .error e) ∨
      ∃ r r', (narrow.run Inventory.Store.respond (fun _ s => s) store).1 = .ok r ∧
        (wide.run Inventory.Store.respond (fun _ s => s) store).1 = .ok r' ∧ Within r r') :=
  check_widens Inventory.Store.respond Inventory.Store.respond (fun _ s => s) (fun _ s => s)
    _ _ _ _ rfl (by decide) (by decide)

end CertRenewal.Expiry
