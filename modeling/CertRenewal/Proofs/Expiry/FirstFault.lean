import CertRenewal.Proofs.Expiry.Completeness
import CertRenewal.Proofs.Faults

/-!
# The first fault ends an expiry check

`Listings` is what a client answers to the three questions of a check, and `Listings.scan` is all
that a check then looks at, item by item and in order, wherever it ends: each listing, and behind it
what the listing brings into scope. `Item.fault?` says what is wrong with an item, and knows of no
threshold.

`check_settled` is what a check comes to: its exchanges are those up to the first listing with a
fault behind it, and its error is the first fault of the scan. `check_reports_first_fault` is the
main statement.
-/

namespace CertRenewal.Expiry

open CertRenewal.Cluster (Node Secret)

/-! ## Items -/

/-- An item that a check looks at. -/
inductive Item where
  /-- The answer to a question, with the error if it is refused. -/
  | listing (refusal : Option Inventory.Error)
  /-- The certificate under a key of a TLS secret. -/
  | certificate (secret : Secret) (key : String) (pem : List UInt8)
  /-- The kubeconfig in a secret. -/
  | kubeconfig (secret : Secret)
  /-- The certificate of a cluster of a kubeconfig. -/
  | cluster (secret : Secret) (name data : String)
  /-- The certificate of a user of a kubeconfig. -/
  | user (secret : Secret) (name data : String)
  /-- An entry in the annotation of a node. -/
  | date (node : Node) (entry : List Char)

/-- Where an item of a secret is: the namespace and name of the secret, and the kind and name of the
item. -/
def place (secret : Secret) (kind name : String) : String :=
  "Secret '" ++ secret.metadata.namespace_.getD "" ++ "/" ++ secret.metadata.anyName ++ "'" ++
    kind ++ " '" ++ name ++ "'"

/-- What is wrong with a certificate: its armour, or the encoding inside it, or its date. -/
def certificateFault? (origin : String) (pem : List UInt8) : Option Error :=
  match Certificate.Pem.read pem with
  | .error cause => some (.certificate origin (.pem cause))
  | .ok der =>
    match Certificate.derNotAfter der with
    | .error cause => some (.certificate origin (.der cause))
    | .ok seconds =>
      if Instant.isSupported seconds then none else some (.certificate origin .date)

/-- What is wrong with a certificate in base64: the base64, or the certificate. -/
def embeddedFault? (origin data : String) : Option Error :=
  match Base64.decode (Text.Utf8.encode (Text.trim data.toList)) with
  | .error cause => some (.certificateData origin cause)
  | .ok pem => certificateFault? origin pem

/-- What is wrong with the kubeconfig in a secret: it is missing, or it cannot be read. -/
def kubeconfigFault? (secret : Secret) : Option Error :=
  let namespace_ := secret.metadata.namespace_.getD ""
  match secret.get? "value" with
  | none => some (.missingKubeconfig namespace_ secret.metadata.anyName)
  | some bytes =>
    match Kubeconfig.parse (Text.Utf8.decodeLossy bytes) with
    | none => some (.kubeconfig namespace_ secret.metadata.anyName)
    | some _ => none

/-- What is wrong with an item, if anything is. -/
def Item.fault? : Item → Option Error
  | .listing refusal => refusal.map .inventory
  | .certificate secret key pem => certificateFault? (place secret " key" key) pem
  | .kubeconfig secret => kubeconfigFault? secret
  | .cluster secret name data => embeddedFault? (place secret " cluster" name) data
  | .user secret name data => embeddedFault? (place secret " user" name) data
  | .date node entry =>
    (CertRenewal.fault? (Annotations.parseEntry entry)).map (.annotations node.metadata.anyName)

def Sound (items : List Item) : Prop := ∀ x ∈ items, x.fault? = none

/-- The first item with which anything is wrong, and the error. -/
def FirstFault (items : List Item) (e : Error) : Prop :=
  ∃ before x after, items = before ++ x :: after ∧ Sound before ∧ x.fault? = some e

/-! ## What a check looks at -/

def tlsItems (secret : Secret) : List Item :=
  ["tls.crt", "ca.crt"].filterMap fun key => (secret.get? key).map (.certificate secret key)

def entryItems (item : String → String → Item) (entries : List Kubeconfig.Entry) : List Item :=
  entries.filterMap fun e => e.certificate.map (item e.name)

/-- The items of a kubeconfig: its clusters, and then its users. -/
def kubeconfigItems (secret : Secret) (kubeconfig : Kubeconfig) : List Item :=
  entryItems (.cluster secret) kubeconfig.clusters ++ entryItems (.user secret) kubeconfig.users

/-- The items of the secret with a kubeconfig. There are no entries when it cannot be read. -/
def secretItems (secret : Secret) : List Item :=
  .kubeconfig secret :: ((kubeconfig? secret).map (kubeconfigItems secret)).getD []

def nodeItems (node : Node) : List Item :=
  ((annotation? node).map fun value =>
    (Annotations.entryTexts value.toList).map (.date node)).getD []

/-- The items of a listing, and behind it those of what is listed. -/
def listingItems {α : Type} (items : α → List Item) :
    Except Inventory.Error (List α) → List Item
  | .error cause => [.listing (some cause)]
  | .ok found => .listing none :: found.flatMap items

structure Listings where
  tls : Except Inventory.Error (List Secret)
  secrets : Except Inventory.Error (List Secret)
  nodes : Except Inventory.Error (List Node)

namespace Listings

def tlsScan (l : Listings) : List Item := listingItems tlsItems l.tls

def secretScan (l : Listings) : List Item :=
  listingItems secretItems (l.secrets.map fun secrets => secrets.filter HoldsKubeconfig)

def nodeScan (l : Listings) : List Item := listingItems nodeItems l.nodes

/-- All that a check looks at, in order. -/
def scan (l : Listings) : List Item := l.tlsScan ++ l.secretScan ++ l.nodeScan

/-- What a client answers to the three questions, one after the other. -/
def ofClient {σ : Type} (client : (call : Inventory.Call) → σ → call.Answer × σ) (s : σ) :
    Listings :=
  let (tls, s) := client (.listSecrets ⟨none, some "kubernetes.io/tls"⟩) s
  let (secrets, s) := client (.listSecrets ⟨none, none⟩) s
  ⟨tls, secrets, (client .listNodes s).1⟩

/-- The exchanges of a check: no question is asked behind a fault. -/
def exchanges (l : Listings) : List (Exchange Inventory.Call.Answer) :=
  ⟨.listSecrets ⟨none, some "kubernetes.io/tls"⟩, l.tls⟩ ::
    if (l.tlsScan.findSome? Item.fault?).isSome then []
    else ⟨.listSecrets ⟨none, none⟩, l.secrets⟩ ::
      if (l.secretScan.findSome? Item.fault?).isSome then [] else [⟨.listNodes, l.nodes⟩]

end Listings

/-! ## The faults of the parts of a check -/

variable (d : Deadline)

theorem fault?_certificateExpiry (origin : String) (pem : List UInt8) :
    fault? (certificateExpiry origin pem) = certificateFault? origin pem := by
  rw [certificateExpiry, fault?_mapError, Certificate.notAfter, certificateFault?]
  cases Certificate.Pem.read pem with
  | error cause => rfl
  | ok der =>
    dsimp only
    cases Certificate.derNotAfter der with
    | error cause => rfl
    | ok seconds =>
      dsimp only
      split <;> rfl

theorem fault?_collect {α β ε : Type} (f : α → Except ε (Option β)) (l : List α) :
    fault? (collect f l) = l.findSome? fun a => fault? (f a) := by
  induction l with
  | nil => rfl
  | cons a rest ih =>
    rw [collect, findSome?_cons_or, ← ih]
    exact fault?_bind _ _ fun b _ => fault?_bind_pure _ _

theorem place_eq (secret : Secret) (kind name : String) :
    place secret kind name =
      secretOrigin (secret.metadata.namespace_.getD "") secret.metadata.anyName ++ kind ++ " '" ++
        name ++ "'" := rfl

theorem fault?_tlsCertificate (secret : Secret) (key : String) :
    fault? (tlsCertificate d (secretOrigin (secret.metadata.namespace_.getD "")
        secret.metadata.anyName) secret key) =
      ((secret.get? key).map (Item.certificate secret key)).bind Item.fault? := by
  rw [tlsCertificate]
  cases secret.get? key with
  | none => rfl
  | some pem =>
    have hkey : ∀ origin : String, origin ++ " key" ++ " '" = origin ++ " key '" :=
      fun origin => String.append_assoc
    refine (fault?_bind_pure _ _).trans ((fault?_certificateExpiry _ _).trans ?_)
    rw [Option.map_some, Option.bind_some, Item.fault?, place_eq, hkey]

theorem fault?_tlsSecret (secret : Secret) :
    fault? (tlsSecret d secret) = (tlsItems secret).findSome? Item.fault? := by
  rw [tlsItems, findSome?_filterMap]
  refine (fault?_bind_pure _ _).trans ((fault?_collect _ _).trans ?_)
  simp only [fault?_tlsCertificate]
  rfl

theorem fault?_entryCertificate (name origin : String) {item : String → String → Item}
    {e : Kubeconfig.Entry}
    (hitem : ∀ data, (item e.name data).fault? =
      embeddedFault? (origin ++ " '" ++ e.name ++ "'") data) :
    fault? (entryCertificate d name origin e) =
      (e.certificate.map (item e.name)).bind Item.fault? := by
  rw [entryCertificate]
  cases e.certificate with
  | none => rfl
  | some data =>
    rw [Option.map_some, Option.bind_some, hitem, embeddedFault?]
    show fault? ((Base64.decode (Text.Utf8.encode (Text.trim data.toList))).mapError
      (Error.certificateData (origin ++ " '" ++ e.name ++ "'")) >>= _) = _
    cases Base64.decode (Text.Utf8.encode (Text.trim data.toList)) with
    | error cause => rfl
    | ok pem => exact (fault?_bind_pure _ _).trans (fault?_certificateExpiry _ _)

theorem fault?_entries (name origin : String) (item : String → String → Item)
    (hitem : ∀ entry data, (item entry data).fault? =
      embeddedFault? (origin ++ " '" ++ entry ++ "'") data) (entries : List Kubeconfig.Entry) :
    fault? (collect (entryCertificate d name origin) entries) =
      (entryItems item entries).findSome? Item.fault? := by
  rw [fault?_collect, entryItems, findSome?_filterMap]
  simp only [fault?_entryCertificate d name origin (hitem _)]

theorem fault?_kubeconfigOf (secret : Secret) :
    fault? (kubeconfigOf (secret.metadata.namespace_.getD "") secret.metadata.anyName secret) =
      kubeconfigFault? secret := by
  rw [kubeconfigOf, kubeconfigFault?, kubeconfigKey]
  cases secret.get? "value" with
  | none => rfl
  | some bytes =>
    dsimp only
    cases Kubeconfig.parse (Text.Utf8.decodeLossy bytes) <;> rfl

theorem kubeconfig?_of_ok {namespace_ name : String} {secret : Secret} {kubeconfig : Kubeconfig}
    (h : kubeconfigOf namespace_ name secret = .ok kubeconfig) :
    kubeconfig? secret = some kubeconfig := by
  rw [kubeconfigOf, kubeconfigKey] at h
  rw [kubeconfig?]
  cases hbytes : secret.get? "value" with
  | none => simp [hbytes] at h
  | some bytes =>
    cases hparsed : Kubeconfig.parse (Text.Utf8.decodeLossy bytes) with
    | none => simp [hbytes, hparsed] at h
    | some found => simpa [hbytes, hparsed] using h

theorem fault?_kubeconfigSecret (secret : Secret) :
    fault? (kubeconfigSecret d secret) = (secretItems secret).findSome? Item.fault? := by
  rw [secretItems, findSome?_cons_or, Item.fault?, ← fault?_kubeconfigOf]
  refine fault?_bind _ _ fun kubeconfig hkubeconfig => ?_
  rw [kubeconfig?_of_ok hkubeconfig, Option.map_some, Option.getD_some, kubeconfigItems,
    List.findSome?_append,
    ← fault?_entries d "CertificateAuthorityData" _ (.cluster secret) fun _ _ => rfl,
    ← fault?_entries d "ClientCertificateData" _ (.user secret) fun _ _ => rfl]
  exact fault?_bind _ _ fun clusters _ => fault?_bind_pure _ _

theorem fault?_nodeCertificates (node : Node) :
    fault? (nodeCertificates d node) = (nodeItems node).findSome? Item.fault? := by
  have hlookup : (node.metadata.annotations.getD []).lookup annotationKey = annotation? node := rfl
  rw [nodeCertificates, nodeItems, hlookup]
  cases annotation? node with
  | none => rfl
  | some value =>
    refine (fault?_bind_pure _ _).trans ?_
    rw [fault?_mapError, Annotations.parse, fault?_mapM, Option.map_some, Option.getD_some,
      List.findSome?_map, List.map_findSome?]
    rfl

/-! ## What a check comes to -/

def listed {α β : Type} (f : List α → Except Error β) :
    Except Inventory.Error (List α) → Except Error β
  | .error cause => .error (.inventory cause)
  | .ok found => f found

theorem fault?_listed {α β : Type} {f : List α → Except Error β} {items : α → List Item}
    (hf : ∀ found, fault? (f found) = found.findSome? fun a => (items a).findSome? Item.fault?)
    (answer : Except Inventory.Error (List α)) :
    fault? (listed f answer) = (listingItems items answer).findSome? Item.fault? := by
  cases answer with
  | error cause => rfl
  | ok found =>
    rw [listed, hf, listingItems, findSome?_cons_or, findSome?_flatMap]
    rfl

namespace Listings

def tlsResult (l : Listings) : Except Error (List Report.TlsSecret) :=
  listed (collect (tlsSecret d)) l.tls

def secretResult (l : Listings) : Except Error (List Report.KubeconfigSecret) :=
  listed (fun secrets => collect (kubeconfigSecret d) (secrets.filter isKubeconfigSecret)) l.secrets

def nodeResult (l : Listings) : Except Error (List Report.NodeCertificates) :=
  listed (collect (nodeCertificates d)) l.nodes

def result (l : Listings) : Except Error Report :=
  l.tlsResult d >>= fun tls => l.secretResult d >>= fun secrets => l.nodeResult d >>= fun nodes =>
    pure ⟨tls, secrets, nodes⟩

variable (l : Listings)

theorem fault?_tlsResult : fault? (l.tlsResult d) = l.tlsScan.findSome? Item.fault? := by
  refine fault?_listed (fun tls => ?_) l.tls
  simp only [fault?_collect, fault?_tlsSecret]

theorem fault?_secretResult : fault? (l.secretResult d) = l.secretScan.findSome? Item.fault? := by
  rw [secretResult, secretScan]
  cases l.secrets with
  | error cause => rfl
  | ok secrets =>
    have hfilter : secrets.filter isKubeconfigSecret = secrets.filter HoldsKubeconfig := by
      refine List.filter_congr fun secret _ => ?_
      rw [Bool.eq_iff_iff, holdsKubeconfig_iff, decide_eq_true_iff]
    have hcollect : ∀ found, fault? (collect (kubeconfigSecret d) found) =
        found.findSome? fun secret => (secretItems secret).findSome? Item.fault? := by
      intro found
      simp only [fault?_collect, fault?_kubeconfigSecret]
    rw [listed, hfilter]
    exact fault?_listed hcollect (.ok (secrets.filter HoldsKubeconfig))

theorem fault?_nodeResult : fault? (l.nodeResult d) = l.nodeScan.findSome? Item.fault? := by
  refine fault?_listed (fun nodes => ?_) l.nodes
  simp only [fault?_collect, fault?_nodeCertificates]

/-- The error of a check is the first fault of all that it looks at. -/
theorem fault?_result : fault? (l.result d) = l.scan.findSome? Item.fault? := by
  rw [scan, List.findSome?_append, List.findSome?_append, ← fault?_tlsResult d,
    ← fault?_secretResult d, ← fault?_nodeResult d, Option.or_assoc]
  exact fault?_bind _ _ fun tls _ => fault?_bind _ _ fun secrets _ => fault?_bind_pure _ _

end Listings

variable {σ : Type} (client : (call : Inventory.Call) → σ → call.Answer × σ) (pause : Nat → σ → σ)
variable (s : σ)

theorem afterListing_eq {α β : Type} (f : List α → Except Error β)
    (answer : Except Inventory.Error (List α)) : afterListing f answer = .done (listed f answer) := by
  cases answer <;> rfl

/-- A stage of a check asks one question, and its result is made of the answer. -/
theorem settled_stage {β : Type} {call : Inventory.Call}
    {next : call.Answer → Inventory.Dialogue β} {result : call.Answer → β} {s s' : σ}
    {answer : call.Answer} (h : client call s = (answer, s'))
    (hnext : ∀ answer, next answer = .done (result answer)) :
    (Dialogue.ask call next).run client pause s = (result answer, s') ∧
      (Dialogue.ask call next).transcript client pause s = [⟨call, answer⟩] := by
  rw [Dialogue.run_ask_of_answer client pause next h,
    Dialogue.transcript_ask_of_answer client pause next h, hnext]
  exact ⟨rfl, rfl⟩

/-- A check depends on nothing but the answers to its three questions: these decide the result, and
which of the questions are asked. -/
theorem check_settled :
    ((check d).run client pause s).1 = (Listings.ofClient client s).result d ∧
      (check d).transcript client pause s = (Listings.ofClient client s).exchanges := by
  obtain ⟨tls, s₁, htls⟩ : ∃ tls s₁,
      client (.listSecrets ⟨none, some "kubernetes.io/tls"⟩) s = (tls, s₁) := ⟨_, _, rfl⟩
  obtain ⟨secrets, s₂, hsecrets⟩ : ∃ secrets s₂,
      client (.listSecrets ⟨none, none⟩) s₁ = (secrets, s₂) := ⟨_, _, rfl⟩
  obtain ⟨nodes, s₃, hnodes⟩ : ∃ nodes s₃, client .listNodes s₂ = (nodes, s₃) := ⟨_, _, rfl⟩
  obtain ⟨l, hl⟩ : ∃ l : Listings, l = ⟨tls, secrets, nodes⟩ := ⟨_, rfl⟩
  have hclient : Listings.ofClient client s = l := by
    simp only [Listings.ofClient, htls, hsecrets, hnodes, hl]
  have hfirst : (checkTlsSecrets d).run client pause s = (l.tlsResult d, s₁) ∧
      (checkTlsSecrets d).transcript client pause s =
        [⟨.listSecrets ⟨none, some "kubernetes.io/tls"⟩, l.tls⟩] := by
    rw [checkTlsSecrets_eq, hl]
    exact settled_stage client pause htls (afterListing_eq _)
  have hsecond : (checkKubeconfigs d).run client pause s₁ = (l.secretResult d, s₂) ∧
      (checkKubeconfigs d).transcript client pause s₁ =
        [⟨.listSecrets ⟨none, none⟩, l.secrets⟩] := by
    rw [checkKubeconfigs_eq, hl]
    exact settled_stage client pause hsecrets (afterListing_eq _)
  have hthird : (checkNodes d).run client pause s₂ = (l.nodeResult d, s₃) ∧
      (checkNodes d).transcript client pause s₂ = [⟨.listNodes, l.nodes⟩] := by
    rw [checkNodes_eq, hl]
    exact settled_stage client pause hnodes (afterListing_eq _)
  rw [hclient, check, Listings.result, Listings.exchanges, ← l.fault?_tlsResult d,
    ← l.fault?_secretResult d]
  cases hr₁ : l.tlsResult d with
  | error e =>
    rw [hr₁] at hfirst
    rw [Dialogue.run_andThen_error client pause _ hfirst.1,
      Dialogue.transcript_andThen_error client pause _ hfirst.1, hfirst.2]
    exact ⟨rfl, rfl⟩
  | ok tlsSecrets =>
    rw [hr₁] at hfirst
    rw [Dialogue.run_andThen_ok client pause _ hfirst.1,
      Dialogue.transcript_andThen_ok client pause _ hfirst.1, hfirst.2]
    cases hr₂ : l.secretResult d with
    | error e =>
      rw [hr₂] at hsecond
      rw [Dialogue.run_andThen_error client pause _ hsecond.1,
        Dialogue.transcript_andThen_error client pause _ hsecond.1, hsecond.2]
      exact ⟨rfl, rfl⟩
    | ok kubeconfigs =>
      rw [hr₂] at hsecond
      rw [Dialogue.run_andThen_ok client pause _ hsecond.1,
        Dialogue.transcript_andThen_ok client pause _ hsecond.1, hsecond.2,
        Dialogue.transcript_andThen_done, hthird.2]
      refine ⟨?_, rfl⟩
      cases hr₃ : l.nodeResult d with
      | error e =>
        rw [hr₃] at hthird
        rw [Dialogue.run_andThen_error client pause _ hthird.1]
        rfl
      | ok nodes =>
        rw [hr₃] at hthird
        rw [Dialogue.run_andThen_ok client pause _ hthird.1]
        rfl

/-! ## The first fault -/

theorem sound_iff {items : List Item} : Sound items ↔ items.findSome? Item.fault? = none :=
  List.findSome?_eq_none_iff.symm

theorem firstFault_iff {items : List Item} {e : Error} :
    FirstFault items e ↔ items.findSome? Item.fault? = some e := by
  rw [List.findSome?_eq_some_iff]
  constructor
  · rintro ⟨before, x, after, hitems, hbefore, hx⟩
    exact ⟨before, x, after, hitems, hx, hbefore⟩
  · rintro ⟨before, x, after, hitems, hx, hbefore⟩
    exact ⟨before, x, after, hitems, hbefore, hx⟩

/-- What a check comes to whose questions are answered by given listings. -/
structure Reported (l : Listings) (exchanges : List (Exchange Inventory.Call.Answer))
    (result : Except Error Report) : Prop where
  /-- It fails where anything is wrong with any item, with the first of the faults. -/
  error_iff : ∀ e, result = .error e ↔ FirstFault l.scan e
  ok_iff : (∃ report, result = .ok report) ↔ Sound l.scan
  /-- A fault of the TLS secrets ends it before the secrets are listed. -/
  tls_last : ¬ Sound l.tlsScan →
    exchanges = [⟨.listSecrets ⟨none, some "kubernetes.io/tls"⟩, l.tls⟩]
  /-- A fault of the kubeconfigs ends it before the nodes are listed. -/
  secrets_last : Sound l.tlsScan → ¬ Sound l.secretScan →
    exchanges = [⟨.listSecrets ⟨none, some "kubernetes.io/tls"⟩, l.tls⟩,
      ⟨.listSecrets ⟨none, none⟩, l.secrets⟩]
  nodes_last : Sound l.tlsScan → Sound l.secretScan →
    exchanges = [⟨.listSecrets ⟨none, some "kubernetes.io/tls"⟩, l.tls⟩,
      ⟨.listSecrets ⟨none, none⟩, l.secrets⟩, ⟨.listNodes, l.nodes⟩]

theorem Listings.reported (l : Listings) : Reported l l.exchanges (l.result d) where
  error_iff e := by rw [firstFault_iff, ← l.fault?_result d, fault?_eq_some_iff]
  ok_iff := by rw [sound_iff, ← l.fault?_result d, fault?_eq_none_iff]
  tls_last htls := by
    rw [sound_iff, ← ne_eq, Option.ne_none_iff_isSome] at htls
    rw [exchanges, if_pos htls]
  secrets_last htls hsecrets := by
    rw [sound_iff] at htls
    rw [sound_iff, ← ne_eq, Option.ne_none_iff_isSome] at hsecrets
    rw [exchanges, htls, if_pos hsecrets]
    rfl
  nodes_last htls hsecrets := by
    rw [sound_iff] at htls hsecrets
    rw [exchanges, htls, hsecrets]
    rfl

/-- For every client and every deadline, a check fails exactly where anything is wrong with what it
looks at, whether or not it would be reported, and its error is the first fault. No question is
asked behind it. -/
theorem check_reports_first_fault (client : (call : Inventory.Call) → σ → call.Answer × σ)
    (pause : Nat → σ → σ) (d : Deadline) (s : σ) :
    Reported (Listings.ofClient client s) ((check d).transcript client pause s)
      ((check d).run client pause s).1 := by
  obtain ⟨hresult, hexchanges⟩ := check_settled d client pause s
  rw [hresult, hexchanges]
  exact (Listings.ofClient client s).reported d

end CertRenewal.Expiry
