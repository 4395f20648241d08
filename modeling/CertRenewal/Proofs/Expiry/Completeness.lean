import CertRenewal.Expiry.Check
import CertRenewal.Inventory.Store
import CertRenewal.Proofs.Dialogue
import Mathlib.Data.List.Basic

/-!
# The expiry report is complete

`found` is all that an expiry check looks at: every certificate in scope with its own date, in the
order of the sources, and grouped as in a report. `Report.expiring` keeps those that are to be
reported and drops the groups in which there is none. `collect_eq_filterMap` is the loop of the
check, over sources each of which can be read; `run_check` puts the three sources together.

`InScope` says the same of a single certificate, and `check_complete` is the main statement: the
report lists a certificate exactly when it is in scope and expires soon, as often as it is there,
and in the order of the sources.
-/

namespace CertRenewal

open CertRenewal.Cluster (Node Secret)
open CertRenewal.Expiry (Deadline)

/-! ## What a report lists -/

namespace Report

inductive Source where
  | tls (secret namespace_ : String)
  | cluster (secret namespace_ entry : String)
  | user (secret namespace_ entry : String)
  | node (name : String)
  deriving DecidableEq, Repr

structure Sighting where
  source : Source
  name : String
  expiry : Instant
  deriving DecidableEq, Repr

def TlsSecret.sightings (s : TlsSecret) : List Sighting :=
  s.certificates.map fun c => ⟨.tls s.name s.namespace_, c.name, c.expiry⟩

/-- The certificates of a kubeconfig, the clusters before the users. -/
def KubeconfigSecret.sightings (s : KubeconfigSecret) : List Sighting :=
  s.clusters.map (fun c => ⟨.cluster s.name s.namespace_ c.entry, c.name, c.expiry⟩) ++
    s.users.map fun c => ⟨.user s.name s.namespace_ c.entry, c.name, c.expiry⟩

def NodeCertificates.sightings (n : NodeCertificates) : List Sighting :=
  n.certificates.map fun c => ⟨.node n.name, c.name, c.expiry⟩

def sightings (r : Report) : List Sighting :=
  r.tlsSecrets.flatMap (·.sightings) ++ r.kubeconfigs.flatMap (·.sightings) ++
    r.nodes.flatMap (·.sightings)

/-- A TLS secret with those of its certificates that are to be reported. -/
def TlsSecret.expiring (d : Deadline) (s : TlsSecret) : TlsSecret :=
  { s with certificates := s.certificates.filter fun c => d.reports c.expiry }

def KubeconfigSecret.expiring (d : Deadline) (s : KubeconfigSecret) : KubeconfigSecret :=
  { s with
    clusters := s.clusters.filter fun c => d.reports c.expiry
    users := s.users.filter fun c => d.reports c.expiry }

def NodeCertificates.expiring (d : Deadline) (n : NodeCertificates) : NodeCertificates :=
  { n with certificates := n.certificates.filter fun c => d.reports c.expiry }

/-- A report with those of its certificates that are to be reported, without groups that have
none. -/
def expiring (d : Deadline) (r : Report) : Report where
  tlsSecrets := (r.tlsSecrets.map (·.expiring d)).filter fun s => !s.sightings.isEmpty
  kubeconfigs := (r.kubeconfigs.map (·.expiring d)).filter fun s => !s.sightings.isEmpty
  nodes := (r.nodes.map (·.expiring d)).filter fun n => !n.sightings.isEmpty

/-- Groups that are empty list nothing, and in the others is what was in them. -/
theorem flatMap_expiring {α β : Type} (f : α → List β) (keep : β → Bool) (change : α → α)
    (hchange : ∀ a, f (change a) = (f a).filter keep) (l : List α) :
    ((l.map change).filter fun a => !(f a).isEmpty).flatMap f = (l.flatMap f).filter keep := by
  induction l with
  | nil => rfl
  | cons a rest ih =>
    rw [List.map_cons, List.flatMap_cons, List.filter_append, ← hchange, ← ih]
    cases hempty : (f (change a)).isEmpty with
    | true => rw [List.filter_cons_of_neg (by simp [hempty]), List.isEmpty_iff.mp hempty,
        List.nil_append]
    | false => rw [List.filter_cons_of_pos (by simp [hempty]), List.flatMap_cons]

theorem TlsSecret.sightings_expiring (d : Deadline) (s : TlsSecret) :
    (s.expiring d).sightings = s.sightings.filter fun x => d.reports x.expiry := by
  simp only [TlsSecret.sightings, TlsSecret.expiring, List.filter_map]
  rfl

theorem KubeconfigSecret.sightings_expiring (d : Deadline) (s : KubeconfigSecret) :
    (s.expiring d).sightings = s.sightings.filter fun x => d.reports x.expiry := by
  simp only [KubeconfigSecret.sightings, KubeconfigSecret.expiring, List.filter_map,
    List.filter_append]
  rfl

theorem NodeCertificates.sightings_expiring (d : Deadline) (n : NodeCertificates) :
    (n.expiring d).sightings = n.sightings.filter fun x => d.reports x.expiry := by
  simp only [NodeCertificates.sightings, NodeCertificates.expiring, List.filter_map]
  rfl

theorem tlsSightings_expiring (d : Deadline) (r : Report) :
    (r.expiring d).tlsSecrets.flatMap (·.sightings) =
      (r.tlsSecrets.flatMap (·.sightings)).filter fun x => d.reports x.expiry :=
  flatMap_expiring _ _ _ (TlsSecret.sightings_expiring d) _

theorem kubeconfigSightings_expiring (d : Deadline) (r : Report) :
    (r.expiring d).kubeconfigs.flatMap (·.sightings) =
      (r.kubeconfigs.flatMap (·.sightings)).filter fun x => d.reports x.expiry :=
  flatMap_expiring _ _ _ (KubeconfigSecret.sightings_expiring d) _

theorem nodeSightings_expiring (d : Deadline) (r : Report) :
    (r.expiring d).nodes.flatMap (·.sightings) =
      (r.nodes.flatMap (·.sightings)).filter fun x => d.reports x.expiry :=
  flatMap_expiring _ _ _ (NodeCertificates.sightings_expiring d) _

/-- The filter takes out of a report the certificates that are not to be reported. -/
theorem sightings_expiring (d : Deadline) (r : Report) :
    (r.expiring d).sightings = r.sightings.filter fun x => d.reports x.expiry := by
  rw [sightings, tlsSightings_expiring, kubeconfigSightings_expiring, nodeSightings_expiring,
    sightings, List.filter_append, List.filter_append]

end Report

namespace Expiry

/-! ## What is in scope -/

def keyFound (secret : Secret) (key : String) : Option Report.Certificate := do
  return ⟨key, ← (Certificate.notAfter (← secret.get? key)).toOption⟩

def tlsFound (secret : Secret) : Report.TlsSecret where
  name := secret.metadata.anyName
  namespace_ := secret.metadata.namespace_.getD ""
  certificates := ["tls.crt", "ca.crt"].filterMap (keyFound secret)

/-- When the certificate in base64 expires. -/
def embeddedExpiry? (data : String) : Option Instant := do
  let pem ← (Base64.decode (Text.Utf8.encode (Text.trim data.toList))).toOption
  (Certificate.notAfter pem).toOption

def entryFound (name : String) (e : Kubeconfig.Entry) : Option Report.EntryCertificate := do
  return ⟨e.name, name, ← embeddedExpiry? (← e.certificate)⟩

def kubeconfig? (secret : Secret) : Option Kubeconfig := do
  Kubeconfig.parse (Text.Utf8.decodeLossy (← secret.get? "value"))

def kubeconfigFound (secret : Secret) : Report.KubeconfigSecret :=
  let kubeconfig := (kubeconfig? secret).getD ⟨[], []⟩
  { name := secret.metadata.anyName
    namespace_ := secret.metadata.namespace_.getD ""
    clusters := kubeconfig.clusters.filterMap (entryFound "CertificateAuthorityData")
    users := kubeconfig.users.filterMap (entryFound "ClientCertificateData") }

def annotation? (node : Node) : Option String :=
  (node.metadata.annotations.getD []).lookup "cert-expiration"

def nodeFound (node : Node) : Report.NodeCertificates where
  name := node.metadata.anyName
  certificates :=
    (((annotation? node).bind fun value => (Annotations.parse value).toOption).getD []).map
      fun (name, expiry) => ⟨name, expiry⟩

/-- Whether a secret is that of a kubeconfig of a control plane. -/
def HoldsKubeconfig (secret : Secret) : Prop :=
  "-kubeconfig".toList <:+ secret.metadata.anyName.toList ∧
    "KubeadmControlPlane" ∈ secret.metadata.ownerKinds

instance (secret : Secret) : Decidable (HoldsKubeconfig secret) :=
  inferInstanceAs (Decidable (_ ∧ _))

/-- All certificates in scope. -/
def found (tls secrets : List Secret) (nodes : List Node) : Report where
  tlsSecrets := tls.map tlsFound
  kubeconfigs := (secrets.filter HoldsKubeconfig).map kubeconfigFound
  nodes := nodes.map nodeFound

inductive InScope (tls secrets : List Secret) (nodes : List Node) : Report.Sighting → Prop where
  | tls {secret : Secret} {key : String} {pem : List UInt8} {expiry : Instant}
      (hsecret : secret ∈ tls) (hkey : key = "tls.crt" ∨ key = "ca.crt")
      (hpem : secret.get? key = some pem) (hexpiry : Certificate.notAfter pem = .ok expiry) :
      InScope tls secrets nodes
        ⟨.tls secret.metadata.anyName (secret.metadata.namespace_.getD ""), key, expiry⟩
  | cluster {secret : Secret} {kubeconfig : Kubeconfig} {e : Kubeconfig.Entry} {data : String}
      {expiry : Instant} (hsecret : secret ∈ secrets) (hholds : HoldsKubeconfig secret)
      (hkubeconfig : kubeconfig? secret = some kubeconfig) (he : e ∈ kubeconfig.clusters)
      (hdata : e.certificate = some data) (hexpiry : embeddedExpiry? data = some expiry) :
      InScope tls secrets nodes
        ⟨.cluster secret.metadata.anyName (secret.metadata.namespace_.getD "") e.name,
          "CertificateAuthorityData", expiry⟩
  | user {secret : Secret} {kubeconfig : Kubeconfig} {e : Kubeconfig.Entry} {data : String}
      {expiry : Instant} (hsecret : secret ∈ secrets) (hholds : HoldsKubeconfig secret)
      (hkubeconfig : kubeconfig? secret = some kubeconfig) (he : e ∈ kubeconfig.users)
      (hdata : e.certificate = some data) (hexpiry : embeddedExpiry? data = some expiry) :
      InScope tls secrets nodes
        ⟨.user secret.metadata.anyName (secret.metadata.namespace_.getD "") e.name,
          "ClientCertificateData", expiry⟩
  | node {node : Node} {value name : String} {entries : List Annotations.Entry} {expiry : Instant}
      (hnode : node ∈ nodes) (hvalue : annotation? node = some value)
      (hentries : Annotations.parse value = .ok entries) (hentry : (name, expiry) ∈ entries) :
      InScope tls secrets nodes ⟨.node node.metadata.anyName, name, expiry⟩

/-- Everything in scope is there and can be read. -/
structure Readable (tls secrets : List Secret) (nodes : List Node) : Prop where
  tls : ∀ secret ∈ tls, ∀ key, key = "tls.crt" ∨ key = "ca.crt" →
    ∀ pem, secret.get? key = some pem → ∃ expiry, Certificate.notAfter pem = .ok expiry
  kubeconfigs : ∀ secret ∈ secrets, HoldsKubeconfig secret →
    ∃ kubeconfig, kubeconfig? secret = some kubeconfig ∧
      ∀ e ∈ kubeconfig.clusters ++ kubeconfig.users, ∀ data, e.certificate = some data →
        ∃ expiry, embeddedExpiry? data = some expiry
  nodes : ∀ node ∈ nodes, ∀ value, annotation? node = some value →
    ∃ entries, Annotations.parse value = .ok entries

theorem toOption_eq_some_iff {ε α : Type} {x : Except ε α} {a : α} :
    x.toOption = some a ↔ x = .ok a := by
  cases x with
  | error e => simp [Except.toOption]
  | ok b => simp [Except.toOption]

/-! ## One source after the other -/

section

variable {α β ε : Type}

/-- The loop of the check over sources each of which can be read. -/
theorem collect_eq_filterMap {f : α → Except ε (Option β)} {g : α → Option β} {l : List α}
    (h : ∀ a ∈ l, f a = .ok (g a)) : collect f l = .ok (l.filterMap g) := by
  induction l with
  | nil => rfl
  | cons a rest ih =>
    obtain ⟨ha, hrest⟩ := List.forall_mem_cons.mp h
    rw [collect, ha, ih hrest, List.filterMap_cons]
    cases g a with
    | none => rfl
    | some b => rfl

/-- A group, if it lists anything. -/
def kept (sightings : β → List Report.Sighting) (b : β) : Option β :=
  if (sightings b).isEmpty then none else some b

theorem kept_tlsSecret (s : Report.TlsSecret) :
    kept (·.sightings) s = if s.certificates.isEmpty then none else some s := by
  simp only [kept, Report.TlsSecret.sightings, List.isEmpty_map]

theorem kept_kubeconfig (s : Report.KubeconfigSecret) :
    kept (·.sightings) s = if s.clusters.isEmpty && s.users.isEmpty then none else some s := by
  obtain ⟨name, namespace_, clusters, users⟩ := s
  cases clusters with
  | nil => simp only [kept, Report.KubeconfigSecret.sightings, List.map_nil, List.nil_append,
      List.isEmpty_map, List.isEmpty_nil, Bool.true_and]
  | cons c more => rfl

theorem kept_node (n : Report.NodeCertificates) :
    kept (·.sightings) n = if n.certificates.isEmpty then none else some n := by
  simp only [kept, Report.NodeCertificates.sightings, List.isEmpty_map]

/-- Dropping the groups that list nothing can be put off until all have been changed. -/
theorem filterMap_kept (sightings : β → List Report.Sighting) (g : α → β) (change : β → β)
    (l : List α) :
    l.filterMap (fun a => kept sightings (change (g a))) =
      ((l.map g).map change).filter fun b => !(sightings b).isEmpty := by
  induction l with
  | nil => rfl
  | cons a rest ih =>
    rw [List.filterMap_cons, List.map_cons, List.map_cons, List.filter_cons, ← ih, kept]
    cases (sightings (change (g a))).isEmpty with
    | true => rfl
    | false => rfl

end

section

variable (d : Deadline)

theorem certificateExpiry_eq (origin : String) {pem : List UInt8} {expiry : Instant}
    (h : Certificate.notAfter pem = .ok expiry) : certificateExpiry origin pem = .ok expiry := by
  rw [certificateExpiry, h]
  rfl

/-- What is found under a key is reported if it is to be reported. -/
theorem tlsCertificate_eq (origin : String) {secret : Secret} {key : String}
    (h : ∀ pem, secret.get? key = some pem → ∃ expiry, Certificate.notAfter pem = .ok expiry) :
    tlsCertificate d origin secret key =
      .ok ((keyFound secret key).filter fun c => d.reports c.expiry) := by
  rw [tlsCertificate, keyFound]
  cases hpem : secret.get? key with
  | none => rfl
  | some pem =>
    obtain ⟨expiry, hexpiry⟩ := h pem hpem
    simp only [certificateExpiry_eq _ hexpiry, hexpiry, Except.toOption, Option.bind_eq_bind,
      Option.bind_some, Option.pure_def, Option.filter_some]
    rfl

/-- What a TLS secret adds to a report, when its certificates can be read. -/
theorem tlsSecret_eq {secret : Secret}
    (h : ∀ key, key = "tls.crt" ∨ key = "ca.crt" → ∀ pem, secret.get? key = some pem →
      ∃ expiry, Certificate.notAfter pem = .ok expiry) :
    tlsSecret d secret = .ok (kept (·.sightings) ((tlsFound secret).expiring d)) := by
  have hkeys : ∀ origin, collect (tlsCertificate d origin secret) tlsKeys =
      .ok ((tlsFound secret).expiring d).certificates := by
    intro origin
    have hkey : ∀ key ∈ tlsKeys, tlsCertificate d origin secret key =
        .ok ((keyFound secret key).filter fun c => d.reports c.expiry) := by
      intro key hkey
      exact tlsCertificate_eq d origin (h key (by simpa [tlsKeys] using hkey))
    rw [collect_eq_filterMap hkey, ← List.filter_filterMap]
    rfl
  show (collect (tlsCertificate d _ secret) tlsKeys >>= _) = _
  rw [hkeys, kept_tlsSecret]
  rfl

/-- The certificate in base64 can be read where its date can. -/
theorem exists_pem_of_embeddedExpiry? {data : String} {expiry : Instant}
    (h : embeddedExpiry? data = some expiry) :
    ∃ pem, Base64.decode (Text.Utf8.encode (Text.trim data.toList)) = .ok pem ∧
      Certificate.notAfter pem = .ok expiry := by
  obtain ⟨pem, hpem, hexpiry⟩ := Option.bind_eq_some_iff.mp h
  exact ⟨pem, toOption_eq_some_iff.mp hpem, toOption_eq_some_iff.mp hexpiry⟩

/-- What is found in an entry is reported if it is to be reported. -/
theorem entryCertificate_eq (name origin : String) {e : Kubeconfig.Entry}
    (h : ∀ data, e.certificate = some data → ∃ expiry, embeddedExpiry? data = some expiry) :
    entryCertificate d name origin e =
      .ok ((entryFound name e).filter fun c => d.reports c.expiry) := by
  rw [entryCertificate, entryFound]
  cases hdata : e.certificate with
  | none => rfl
  | some data =>
    obtain ⟨expiry, hexpiry⟩ := h data hdata
    obtain ⟨pem, hpem, hread⟩ := exists_pem_of_embeddedExpiry? hexpiry
    simp only [hpem, hexpiry, Except.mapError, Option.bind_eq_bind, Option.bind_some,
      Option.pure_def, Option.filter_some]
    show (certificateExpiry _ pem >>= _) = _
    rw [certificateExpiry_eq _ hread]
    rfl

theorem collect_entryCertificate (name origin : String) {entries : List Kubeconfig.Entry}
    (h : ∀ e ∈ entries, ∀ data, e.certificate = some data →
      ∃ expiry, embeddedExpiry? data = some expiry) :
    collect (entryCertificate d name origin) entries =
      .ok ((entries.filterMap (entryFound name)).filter fun c => d.reports c.expiry) := by
  have hentry : ∀ e ∈ entries, entryCertificate d name origin e =
      .ok ((entryFound name e).filter fun c => d.reports c.expiry) := by
    intro e he
    exact entryCertificate_eq d name origin (h e he)
  rw [collect_eq_filterMap hentry, List.filter_filterMap]

theorem kubeconfigOf_eq (namespace_ name : String) {secret : Secret} {kubeconfig : Kubeconfig}
    (h : kubeconfig? secret = some kubeconfig) :
    kubeconfigOf namespace_ name secret = .ok kubeconfig := by
  obtain ⟨bytes, hbytes, hparsed⟩ := Option.bind_eq_some_iff.mp h
  rw [kubeconfigOf, kubeconfigKey, hbytes]
  simp only [hparsed]

/-- What a secret adds whose kubeconfig can be read, with the certificates in it. -/
theorem kubeconfigSecret_eq {secret : Secret} {kubeconfig : Kubeconfig}
    (hkubeconfig : kubeconfig? secret = some kubeconfig)
    (h : ∀ e ∈ kubeconfig.clusters ++ kubeconfig.users, ∀ data, e.certificate = some data →
      ∃ expiry, embeddedExpiry? data = some expiry) :
    kubeconfigSecret d secret = .ok (kept (·.sightings) ((kubeconfigFound secret).expiring d)) := by
  obtain ⟨hclusters, husers⟩ := List.forall_mem_append.mp h
  show (kubeconfigOf _ _ secret >>= _) = _
  rw [kubeconfigOf_eq _ _ hkubeconfig]
  show (collect (entryCertificate d "CertificateAuthorityData" _) kubeconfig.clusters >>= fun _ =>
    collect (entryCertificate d "ClientCertificateData" _) kubeconfig.users >>= _) = _
  rw [collect_entryCertificate d _ _ hclusters, kubeconfigFound, hkubeconfig]
  show (collect (entryCertificate d "ClientCertificateData" _) kubeconfig.users >>= _) = _
  rw [collect_entryCertificate d _ _ husers, kept_kubeconfig]
  rfl

/-- The entries of an annotation that are to be reported. -/
theorem filterMap_entries (entries : List Annotations.Entry) :
    (entries.filterMap fun (name, expiry) =>
      if d.reports expiry then some (⟨name, expiry⟩ : Report.Certificate) else none) =
      (entries.map fun (name, expiry) => (⟨name, expiry⟩ : Report.Certificate)).filter
        fun c => d.reports c.expiry := by
  induction entries with
  | nil => rfl
  | cons e rest ih =>
    obtain ⟨name, expiry⟩ := e
    simp only [List.filterMap_cons, List.map_cons, List.filter_cons, ih]
    cases d.reports expiry with
    | true => rfl
    | false => rfl

/-- What a node adds whose annotation can be read. -/
theorem nodeCertificates_eq {node : Node}
    (h : ∀ value, annotation? node = some value →
      ∃ entries, Annotations.parse value = .ok entries) :
    nodeCertificates d node = .ok (kept (·.sightings) ((nodeFound node).expiring d)) := by
  have hlookup : (node.metadata.annotations.getD []).lookup annotationKey = annotation? node := rfl
  rw [nodeCertificates, nodeFound, hlookup]
  cases hvalue : annotation? node with
  | none => rfl
  | some value =>
    obtain ⟨entries, hentries⟩ := h value hvalue
    simp only [hentries, Except.mapError, Except.toOption, Option.bind_some, Option.getD_some]
    rw [kept_node, Report.NodeCertificates.expiring, ← filterMap_entries]
    rfl

end

/-! ## The check -/

section

variable {tls secrets : List Secret} {nodes : List Node}

/-- The test of the check is the one of the specification. -/
theorem holdsKubeconfig_iff {secret : Secret} :
    isKubeconfigSecret secret = true ↔ HoldsKubeconfig secret := by
  rw [isKubeconfigSecret, Bool.and_eq_true, List.isSuffixOf_iff_suffix, List.contains_iff_mem]
  rfl

theorem collect_tlsSecret (d : Deadline) (h : Readable tls secrets nodes) :
    collect (tlsSecret d) tls = .ok ((found tls secrets nodes).expiring d).tlsSecrets := by
  have hsecret : ∀ secret ∈ tls,
      tlsSecret d secret = .ok (kept (·.sightings) ((tlsFound secret).expiring d)) :=
    fun secret hmem => tlsSecret_eq d (h.tls secret hmem)
  rw [collect_eq_filterMap hsecret, filterMap_kept]
  rfl

theorem collect_kubeconfigSecret (d : Deadline) (h : Readable tls secrets nodes) :
    collect (kubeconfigSecret d) (secrets.filter isKubeconfigSecret) =
      .ok ((found tls secrets nodes).expiring d).kubeconfigs := by
  have hfilter : secrets.filter isKubeconfigSecret = secrets.filter HoldsKubeconfig := by
    refine List.filter_congr fun secret _ => ?_
    rw [Bool.eq_iff_iff, holdsKubeconfig_iff, decide_eq_true_iff]
  have hsecret : ∀ secret ∈ secrets.filter HoldsKubeconfig,
      kubeconfigSecret d secret =
        .ok (kept (·.sightings) ((kubeconfigFound secret).expiring d)) := by
    intro secret hmem
    obtain ⟨hmem, hholds⟩ := List.mem_filter.mp hmem
    obtain ⟨kubeconfig, hkubeconfig, hentries⟩ :=
      h.kubeconfigs secret hmem (of_decide_eq_true hholds)
    exact kubeconfigSecret_eq d hkubeconfig hentries
  rw [hfilter, collect_eq_filterMap hsecret, filterMap_kept]
  rfl

theorem collect_nodeCertificates (d : Deadline) (h : Readable tls secrets nodes) :
    collect (nodeCertificates d) nodes = .ok ((found tls secrets nodes).expiring d).nodes := by
  have hnode : ∀ node ∈ nodes,
      nodeCertificates d node = .ok (kept (·.sightings) ((nodeFound node).expiring d)) :=
    fun node hmem => nodeCertificates_eq d (h.nodes node hmem)
  rw [collect_eq_filterMap hnode, filterMap_kept]
  rfl

def afterListing {α β : Type} (f : List α → Except Error β) :
    Except Inventory.Error (List α) → Inventory.Dialogue (Except Error β)
  | .error cause => .done (.error (.inventory cause))
  | .ok items => .done (f items)

theorem checkTlsSecrets_eq (d : Deadline) :
    checkTlsSecrets d =
      .ask (.listSecrets ⟨none, some "kubernetes.io/tls"⟩)
        (afterListing (collect (tlsSecret d))) := by
  refine congrArg (Dialogue.ask _) (funext fun answer => ?_)
  cases answer <;> rfl

theorem checkKubeconfigs_eq (d : Deadline) :
    checkKubeconfigs d =
      .ask (.listSecrets ⟨none, none⟩)
        (afterListing fun secrets =>
          collect (kubeconfigSecret d) (secrets.filter isKubeconfigSecret)) := by
  refine congrArg (Dialogue.ask _) (funext fun answer => ?_)
  cases answer <;> rfl

theorem checkNodes_eq (d : Deadline) :
    checkNodes d = .ask .listNodes (afterListing (collect (nodeCertificates d))) := by
  refine congrArg (Dialogue.ask _) (funext fun answer => ?_)
  cases answer <;> rfl

variable {σ : Type} {client : (call : Inventory.Call) → σ → call.Answer × σ}
variable (pause : Nat → σ → σ) {s s₁ s₂ s₃ : σ}

/-- The check of sources that are listed and can be read. -/
theorem run_check (d : Deadline)
    (htls : client (.listSecrets ⟨none, some "kubernetes.io/tls"⟩) s = (.ok tls, s₁))
    (hsecrets : client (.listSecrets ⟨none, none⟩) s₁ = (.ok secrets, s₂))
    (hnodes : client .listNodes s₂ = (.ok nodes, s₃)) (h : Readable tls secrets nodes) :
    (check d).run client pause s = (.ok ((found tls secrets nodes).expiring d), s₃) := by
  have hfirst : (checkTlsSecrets d).run client pause s =
      (.ok ((found tls secrets nodes).expiring d).tlsSecrets, s₁) := by
    rw [checkTlsSecrets_eq, ← collect_tlsSecret d h]
    exact Dialogue.run_ask_of_answer client pause _ htls
  have hsecond : (checkKubeconfigs d).run client pause s₁ =
      (.ok ((found tls secrets nodes).expiring d).kubeconfigs, s₂) := by
    rw [checkKubeconfigs_eq, ← collect_kubeconfigSecret d h]
    exact Dialogue.run_ask_of_answer client pause _ hsecrets
  have hthird : (checkNodes d).run client pause s₂ =
      (.ok ((found tls secrets nodes).expiring d).nodes, s₃) := by
    rw [checkNodes_eq, ← collect_nodeCertificates d h]
    exact Dialogue.run_ask_of_answer client pause _ hnodes
  rw [check, Dialogue.run_andThen_ok client pause _ hfirst,
    Dialogue.run_andThen_ok client pause _ hsecond, Dialogue.run_andThen_ok client pause _ hthird]
  rfl

end

/-! ## One certificate -/

theorem keyFound_eq_some_iff {secret : Secret} {key : String} {c : Report.Certificate} :
    keyFound secret key = some c ↔
      ∃ pem, secret.get? key = some pem ∧ Certificate.notAfter pem = .ok c.expiry ∧
        c.name = key := by
  obtain ⟨name, expiry⟩ := c
  constructor
  · intro h
    obtain ⟨pem, hpem, h⟩ := Option.bind_eq_some_iff.mp h
    obtain ⟨expiry', hexpiry, h⟩ := Option.bind_eq_some_iff.mp h
    cases h
    exact ⟨pem, hpem, toOption_eq_some_iff.mp hexpiry, rfl⟩
  · rintro ⟨pem, hpem, hexpiry, rfl⟩
    exact Option.bind_eq_some_iff.mpr
      ⟨pem, hpem, Option.bind_eq_some_iff.mpr ⟨expiry, toOption_eq_some_iff.mpr hexpiry, rfl⟩⟩

theorem entryFound_eq_some_iff {name : String} {e : Kubeconfig.Entry}
    {c : Report.EntryCertificate} :
    entryFound name e = some c ↔
      ∃ data, e.certificate = some data ∧ embeddedExpiry? data = some c.expiry ∧
        c.entry = e.name ∧ c.name = name := by
  obtain ⟨entry, name', expiry⟩ := c
  constructor
  · intro h
    obtain ⟨data, hdata, h⟩ := Option.bind_eq_some_iff.mp h
    obtain ⟨expiry', hexpiry, h⟩ := Option.bind_eq_some_iff.mp h
    cases h
    exact ⟨data, hdata, hexpiry, rfl, rfl⟩
  · rintro ⟨data, hdata, hexpiry, rfl, rfl⟩
    exact Option.bind_eq_some_iff.mpr
      ⟨data, hdata, Option.bind_eq_some_iff.mpr ⟨expiry, hexpiry, rfl⟩⟩

section

variable {x : Report.Sighting}

/-- The certificates of a TLS secret are those under its two keys. -/
theorem mem_tlsFound_iff {secret : Secret} :
    x ∈ (tlsFound secret).sightings ↔
      ∃ key pem expiry, (key = "tls.crt" ∨ key = "ca.crt") ∧ secret.get? key = some pem ∧
        Certificate.notAfter pem = .ok expiry ∧
        x = ⟨.tls secret.metadata.anyName (secret.metadata.namespace_.getD ""), key, expiry⟩ := by
  constructor
  · intro hx
    obtain ⟨⟨name, expiry⟩, hc, rfl⟩ := List.mem_map.mp hx
    obtain ⟨key, hkey, hfound⟩ := List.mem_filterMap.mp hc
    obtain ⟨pem, hpem, hexpiry, rfl⟩ := keyFound_eq_some_iff.mp hfound
    exact ⟨name, pem, expiry, by simpa using hkey, hpem, hexpiry, rfl⟩
  · rintro ⟨key, pem, expiry, hkey, hpem, hexpiry, rfl⟩
    refine List.mem_map.mpr ⟨⟨key, expiry⟩, List.mem_filterMap.mpr ⟨key, ?_, ?_⟩, rfl⟩
    · simpa using hkey
    · exact keyFound_eq_some_iff.mpr ⟨pem, hpem, hexpiry, rfl⟩

/-- What is found in entries of a kubeconfig that have a place of their own in a report. -/
theorem mem_map_entryFound_iff {place : String → Report.Source} {name : String}
    {entries : List Kubeconfig.Entry} :
    x ∈ (entries.filterMap (entryFound name)).map (fun c => ⟨place c.entry, c.name, c.expiry⟩) ↔
      ∃ e ∈ entries, ∃ data expiry, e.certificate = some data ∧
        embeddedExpiry? data = some expiry ∧ x = ⟨place e.name, name, expiry⟩ := by
  constructor
  · intro hx
    obtain ⟨⟨entry, name', expiry⟩, hc, rfl⟩ := List.mem_map.mp hx
    obtain ⟨e, he, hfound⟩ := List.mem_filterMap.mp hc
    obtain ⟨data, hdata, hexpiry, rfl, rfl⟩ := entryFound_eq_some_iff.mp hfound
    exact ⟨e, he, data, expiry, hdata, hexpiry, rfl⟩
  · rintro ⟨e, he, data, expiry, hdata, hexpiry, rfl⟩
    refine List.mem_map.mpr ⟨⟨e.name, name, expiry⟩, List.mem_filterMap.mpr ⟨e, he, ?_⟩, rfl⟩
    exact entryFound_eq_some_iff.mpr ⟨data, hdata, hexpiry, rfl, rfl⟩

/-- The certificates of a kubeconfig are those of its clusters and its users. -/
theorem mem_kubeconfigFound_iff {secret : Secret} :
    x ∈ (kubeconfigFound secret).sightings ↔
      ∃ kubeconfig, kubeconfig? secret = some kubeconfig ∧
        ((∃ e ∈ kubeconfig.clusters, ∃ data expiry, e.certificate = some data ∧
            embeddedExpiry? data = some expiry ∧
            x = ⟨.cluster secret.metadata.anyName (secret.metadata.namespace_.getD "") e.name,
              "CertificateAuthorityData", expiry⟩) ∨
          ∃ e ∈ kubeconfig.users, ∃ data expiry, e.certificate = some data ∧
            embeddedExpiry? data = some expiry ∧
            x = ⟨.user secret.metadata.anyName (secret.metadata.namespace_.getD "") e.name,
              "ClientCertificateData", expiry⟩) := by
  rw [Report.KubeconfigSecret.sightings, kubeconfigFound]
  cases hkubeconfig : kubeconfig? secret with
  | none => simp
  | some kubeconfig =>
    simp only [Option.getD_some, List.mem_append, Option.some.injEq, exists_eq_left']
    exact or_congr mem_map_entryFound_iff mem_map_entryFound_iff

/-- The certificates of a node are the entries of its annotation. -/
theorem mem_nodeFound_iff {node : Node} :
    x ∈ (nodeFound node).sightings ↔
      ∃ value entries name expiry, annotation? node = some value ∧
        Annotations.parse value = .ok entries ∧ (name, expiry) ∈ entries ∧
        x = ⟨.node node.metadata.anyName, name, expiry⟩ := by
  constructor
  · intro hx
    obtain ⟨c, hc, rfl⟩ := List.mem_map.mp hx
    obtain ⟨⟨name, expiry⟩, hentry, rfl⟩ := List.mem_map.mp hc
    cases hfound : (annotation? node).bind fun value => (Annotations.parse value).toOption with
    | none =>
      rw [hfound] at hentry
      cases hentry
    | some entries =>
      rw [hfound] at hentry
      obtain ⟨value, hvalue, hentries⟩ := Option.bind_eq_some_iff.mp hfound
      exact ⟨value, entries, name, expiry, hvalue, toOption_eq_some_iff.mp hentries, hentry, rfl⟩
  · rintro ⟨value, entries, name, expiry, hvalue, hentries, hentry, rfl⟩
    refine List.mem_map.mpr ⟨⟨name, expiry⟩, ?_, rfl⟩
    rw [nodeFound, hvalue, Option.bind_some, hentries]
    exact List.mem_map.mpr ⟨(name, expiry), hentry, rfl⟩

variable {tls secrets : List Secret} {nodes : List Node}

/-- What is found is what is in scope. -/
theorem mem_sightings_found_iff :
    x ∈ (found tls secrets nodes).sightings ↔ InScope tls secrets nodes x := by
  simp only [Report.sightings, found, List.mem_append, List.mem_flatMap, List.mem_map,
    exists_exists_and_eq_and, List.mem_filter, decide_eq_true_eq, mem_tlsFound_iff,
    mem_kubeconfigFound_iff, mem_nodeFound_iff]
  constructor
  · rintro ((⟨secret, hsecret, key, pem, expiry, hkey, hpem, hexpiry, rfl⟩ |
      ⟨secret, ⟨hsecret, hholds⟩, kubeconfig, hkubeconfig,
        ⟨e, he, data, expiry, hdata, hexpiry, rfl⟩ | ⟨e, he, data, expiry, hdata, hexpiry, rfl⟩⟩) |
      ⟨node, hnode, value, entries, name, expiry, hvalue, hentries, hentry, rfl⟩)
    · exact .tls hsecret hkey hpem hexpiry
    · exact .cluster hsecret hholds hkubeconfig he hdata hexpiry
    · exact .user hsecret hholds hkubeconfig he hdata hexpiry
    · exact .node hnode hvalue hentries hentry
  · intro h
    cases h with
    | @tls secret key pem expiry hsecret hkey hpem hexpiry =>
      exact .inl (.inl ⟨secret, hsecret, key, pem, expiry, hkey, hpem, hexpiry, rfl⟩)
    | @cluster secret kubeconfig e data expiry hsecret hholds hkubeconfig he hdata hexpiry =>
      exact .inl (.inr ⟨secret, ⟨hsecret, hholds⟩, kubeconfig, hkubeconfig,
        .inl ⟨e, he, data, expiry, hdata, hexpiry, rfl⟩⟩)
    | @user secret kubeconfig e data expiry hsecret hholds hkubeconfig he hdata hexpiry =>
      exact .inl (.inr ⟨secret, ⟨hsecret, hholds⟩, kubeconfig, hkubeconfig,
        .inr ⟨e, he, data, expiry, hdata, hexpiry, rfl⟩⟩)
    | @node node value name entries expiry hnode hvalue hentries hentry =>
      exact .inr ⟨node, hnode, value, entries, name, expiry, hvalue, hentries, hentry, rfl⟩

end

/-- What the report of a check comes to. -/
structure Complete (d : Deadline) (tls secrets : List Secret) (nodes : List Node)
    (report : Report) : Prop where
  /-- It has what is in scope, grouped by its source, without what does not expire soon and without
  the groups in which nothing does. -/
  grouped : report = (found tls secrets nodes).expiring d
  /-- Certificates are listed as often as they are there, and in the order of the sources. -/
  listed : report.sightings = (found tls secrets nodes).sightings.filter
    fun x => d.threshold.expiresSoon x.expiry d.now
  /-- A certificate is listed exactly when it is in scope and expires soon. -/
  mem_iff : ∀ x, x ∈ report.sightings ↔
    InScope tls secrets nodes x ∧ d.threshold.expiresSoon x.expiry d.now = true

/-- When the three listings succeed and everything in scope is there and can be read, the check
succeeds with a report that is complete. -/
theorem check_complete {σ : Type} {client : (call : Inventory.Call) → σ → call.Answer × σ}
    (pause : Nat → σ → σ) {s s₁ s₂ s₃ : σ} {tls secrets : List Secret} {nodes : List Node}
    (d : Deadline)
    (htls : client (.listSecrets ⟨none, some "kubernetes.io/tls"⟩) s = (.ok tls, s₁))
    (hsecrets : client (.listSecrets ⟨none, none⟩) s₁ = (.ok secrets, s₂))
    (hnodes : client .listNodes s₂ = (.ok nodes, s₃)) (hreadable : Readable tls secrets nodes) :
    ∃ report, (check d).run client pause s = (.ok report, s₃) ∧
      Complete d tls secrets nodes report := by
  refine ⟨_, run_check pause d htls hsecrets hnodes hreadable, rfl, ?_, ?_⟩
  · exact Report.sightings_expiring d _
  · intro x
    rw [Report.sightings_expiring, List.mem_filter, mem_sightings_found_iff]
    rfl

/-! ## A cluster -/

/-- A certificate that says no more than it must, and ends with the year 2029. -/
def plainPem : String :=
  "-----BEGIN C-----\n" ++
    "MD0wNAIBATACBgAwADAeFw0yMDAxMDEwMDAwMDBaFw0zMDAxMDEwMDAwMDBaMAAwBzACBgADAQAwAgYAAwEA\n" ++
    "-----END C-----\n"

def plainData : String :=
  "LS0tLS1CRUdJTiBDLS0tLS0KTUQwd05BSUJBVEFDQmdBd0FEQWVGdzB5TURBeE1ERX" ++
    "dNREF3TURCYUZ3MHpNREF4TURFd01EQXdNREJhTUFBd0J6QUNCZ0FEQVFBd0FnWUFB" ++
    "d0VBCi0tLS0tRU5EIEMtLS0tLQo="

def plainTlsSecret : Secret where
  metadata := ⟨some "ingress", none, some "default", none, none, none, []⟩
  type := some "kubernetes.io/tls"
  data := some [("tls.crt", Text.Utf8.encode plainPem.toList)]
  others := []

def plainKubeconfigSecret : Secret where
  metadata := ⟨some "workload-kubeconfig", none, some "default", none, none, none,
    [("ownerReferences", .array [.object [("kind", .string "KubeadmControlPlane")]])]⟩
  type := none
  data := some [("value", Text.Utf8.encode ("clusters:\n- name: workload\n  cluster: ".toList ++
    '\x7b' :: ("certificate-authority-data: " ++ plainData).toList ++ ['\x7d', '\n']))]
  others := []

def plainNode : Node where
  metadata := ⟨some "master-0", none, none, none, none,
    some [("cert-expiration", "\x7badmin.conf: Aug 10, 2036 13:25 UTC\x7d")], []⟩
  spec := none
  status := none

theorem notAfter_plainPem :
    Certificate.notAfter (Text.Utf8.encode plainPem.toList) =
      .ok (Instant.ofSeconds 1893456000) := by
  decide +kernel

theorem embeddedExpiry?_plainData :
    embeddedExpiry? plainData = some (Instant.ofSeconds 1893456000) := by
  decide +kernel

theorem kubeconfig?_plainKubeconfigSecret :
    kubeconfig? plainKubeconfigSecret = some ⟨[⟨"workload", some plainData⟩], []⟩ := by
  decide +kernel

theorem parse_plainNode :
    Annotations.parse "\x7badmin.conf: Aug 10, 2036 13:25 UTC\x7d" =
      .ok [("admin.conf", Instant.ofSeconds 2101987500)] := by
  decide +kernel

theorem readable_plain :
    Readable [plainTlsSecret] [plainTlsSecret, plainKubeconfigSecret] [plainNode] where
  tls secret hsecret key hkey pem hpem := by
    obtain rfl := List.mem_singleton.mp hsecret
    rcases hkey with rfl | rfl
    · have hthere : plainTlsSecret.get? "tls.crt" = some (Text.Utf8.encode plainPem.toList) := rfl
      obtain rfl := Option.some.inj (hthere.symm.trans hpem)
      exact ⟨_, notAfter_plainPem⟩
    · have hmissing : plainTlsSecret.get? "ca.crt" = none := rfl
      rw [hmissing] at hpem
      cases hpem
  kubeconfigs secret hsecret hholds := by
    rcases List.mem_pair.mp hsecret with rfl | rfl
    · exact absurd hholds (by decide)
    · refine ⟨_, kubeconfig?_plainKubeconfigSecret, ?_⟩
      intro e he data hdata
      obtain rfl := List.mem_singleton.mp he
      cases hdata
      exact ⟨_, embeddedExpiry?_plainData⟩
  nodes node hnode value hvalue := by
    obtain rfl := List.mem_singleton.mp hnode
    cases hvalue
    exact ⟨_, parse_plainNode⟩

/-- A check of one certificate of each kind of source. -/
theorem check_plain_complete :
    let store : Inventory.Store := ⟨[plainTlsSecret, plainKubeconfigSecret], [], [plainNode]⟩
    let d : Deadline := ⟨⟨30⟩, Instant.ofSeconds 1893450000⟩
    ∃ report, (check d).run Inventory.Store.respond (fun _ s => s) store = (.ok report, store) ∧
      Complete d [plainTlsSecret] [plainTlsSecret, plainKubeconfigSecret] [plainNode] report :=
  check_complete (fun _ s => s) _ rfl rfl rfl readable_plain

end Expiry

end CertRenewal
