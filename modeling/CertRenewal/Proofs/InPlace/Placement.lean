import CertRenewal.Proofs.Faults
import CertRenewal.Proofs.InPlace.OneByOne
import CertRenewal.Proofs.Server.Site
import Mathlib.Data.List.Forall2

/-!
# Maintenance pods are created on control-plane nodes only

An in-place renewal against a server that need not cooperate: it may ignore the conditions of a
listing, and it may answer anything to any request. The requests that create something are picked
from those of a run. `creations_interpret` says that they are those of the questions that are asked
one after the other, and `creations_renew` that there is one for each node of a prefix of the
nodes that are read from the listing. One listed node that is no control-plane node is enough for
nothing to be read from it, so that there is not even a first pod.

`renew_creates_on_control_plane` is the main statement.
-/

namespace CertRenewal.Renewal.InPlace

open CertRenewal.Cluster (Failure Node)
open CertRenewal.Maintenance (ControlPlaneNode)
open CertRenewal.Server (Collection Request Response)

/-! ## Creations -/

def creations (xs : List (Exchange fun _ : Request => Response)) : List Request :=
  (xs.map (·.call)).filter fun r => r.method = .post

theorem creations_append (xs ys : List (Exchange fun _ : Request => Response)) :
    creations (xs ++ ys) = creations xs ++ creations ys := by
  rw [creations, creations, creations, List.map_append, List.filter_append]

section Requests

variable {σ : Type} (server : (r : Request) → σ → Response × σ) (pause : Nat → σ → σ)

/-- Where each question tells which creations answer it, the creations of a dialogue are those of
its questions. -/
theorem creations_interpret {Call : Type} {Answer : Call → Type} {α : Type}
    {f : (c : Call) → Server.Dialogue (Answer c)} {known : Call → List Request}
    (hknown : ∀ c s, creations ((f c).transcript server pause s) = known c)
    (d : CertRenewal.Dialogue Call Answer α) (s : σ) :
    creations ((d.interpret f).transcript server pause s) =
      (d.transcript (fun c s => (f c).run server pause s) pause s).flatMap (known ·.call) := by
  induction d generalizing s with
  | done v => rfl
  | ask c next ih =>
    rw [Dialogue.interpret, Dialogue.transcript_bind, creations_append, hknown, ih,
      Dialogue.transcript_ask, List.flatMap_cons]
  | wait ms next ih => exact ih (pause ms s)

/-- The requests that a collection sends: one, or none when it cannot be addressed. -/
def sent (m : Server.Method) (target : List Char) (content : Option Server.Content) :
    List Request :=
  match Server.Address.ofText target with
  | .error _ => []
  | .ok address => [⟨m, address, content⟩]

/-- A request creates something when that is what its method is for. -/
theorem creations_request {α ε : Type} (m : Server.Method) (target : List Char)
    (content : Option Server.Content) (read : Json → Option α) (f : Failure → ε) (s : σ) :
    creations (((Collection.request m target content read).mapError f).transcript server pause s) =
      if m = .post then sent m target content else [] := by
  rw [Dialogue.transcript_mapError, Collection.transcript_request, sent]
  cases Server.Address.ofText target with
  | error cause => cases m <;> rfl
  | ok address => cases m <;> rfl

/-! ## What the questions of a renewal create -/

def creationsFor (defaultNamespace : String) : Maintenance.Call → List Request
  | .createPod _ pod =>
    sent .post ((Server.pods (pod.metadata.namespace_.getD defaultNamespace)).path ++ ['?'])
      (some ⟨Collection.objectType, pod.toJson⟩)
  | .listNodes | .getPod _ _ | .getNode _ => []

def nodeListing : Request :=
  ⟨.get, "/api/v1/nodes?&labelSelector=node-role.kubernetes.io%2Fcontrol-plane".toList, none⟩

/-- What a renewal makes of the nodes that are listed: all of them must be control-plane nodes. -/
def readNodes :
    Except Failure (List Node) → Except Maintenance.Error (List ControlPlaneNode)
  | .error cause => .error (.listNodes Maintenance.roleLabel cause)
  | .ok found => found.mapM ControlPlaneNode.ofNode

/-- The nodes are listed by one request. -/
theorem list_nodes :
    Server.nodes.list [("labelSelector", Maintenance.roleLabel)] Node.ofJson? =
      (Server.send nodeListing).bind fun response =>
        .done (response.object (Collection.readList Node.ofJson?)) := by
  have haddress : Server.Address.ofText (Server.nodes.path ++
      '?' :: Server.Address.parameter "labelSelector" Maintenance.roleLabel) =
        .ok nodeListing.address := by
    decide +kernel
  rw [Collection.list, List.flatMap_singleton, Collection.request, haddress]
  rfl

/-- The nodes are asked for by their label, and all of them must be read. -/
theorem maintenance_listNodes (defaultNamespace : String) :
    Server.maintenance defaultNamespace .listNodes =
      (Server.send nodeListing).bind fun response =>
        .done (readNodes (response.object (Collection.readList Node.ofJson?))) := by
  rw [Server.maintenance, list_nodes]
  refine congrArg (Dialogue.ask nodeListing) (funext fun response => ?_)
  show Dialogue.bind (.done (response.object (Collection.readList Node.ofJson?))) _ =
    .done (readNodes (response.object (Collection.readList Node.ofJson?)))
  cases response.object (Collection.readList Node.ofJson?) with
  | error cause => rfl
  | ok found => rfl

/-- Only a question that creates a pod sends a creation. -/
theorem creations_maintenance (defaultNamespace : String) (c : Maintenance.Call) (s : σ) :
    creations ((Server.maintenance defaultNamespace c).transcript server pause s) =
      creationsFor defaultNamespace c := by
  cases c with
  | listNodes =>
    rw [maintenance_listNodes]
    rfl
  | createPod node pod => exact (creations_request server pause ..).trans (if_pos rfl)
  | getPod namespace_ name => exact (creations_request server pause ..).trans (if_neg (by decide))
  | getNode name => exact (creations_request server pause ..).trans (if_neg (by decide))

end Requests

def podCreation (image : Maintenance.Image) (threshold : String) (node : ControlPlaneNode) :
    Request :=
  ⟨.post, "/api/v1/namespaces/kube-system/pods?".toList,
    some ⟨"application/json", (Maintenance.pod node threshold image).toJson⟩⟩

theorem creationsFor_pod (defaultNamespace : String) (image : Maintenance.Image)
    (threshold : String) (node : ControlPlaneNode) :
    creationsFor defaultNamespace (.createPod node (Maintenance.pod node threshold image)) =
      [podCreation image threshold node] := by
  have haddress : Server.Address.ofText ((Server.pods Maintenance.podNamespace).path ++ ['?']) =
      .ok "/api/v1/namespaces/kube-system/pods?".toList := by
    decide +kernel
  have hnamespace : (Maintenance.pod node threshold image).metadata.namespace_ =
      some Maintenance.podNamespace := rfl
  rw [creationsFor, hnamespace, Option.getD_some, sent, haddress]
  rfl

/-- Of the questions about a node, the first creates its pod, and the others create nothing. -/
theorem creationsFor_exchanges (defaultNamespace : String) (image : Maintenance.Image)
    (threshold : String) (b : Block) :
    (b.exchanges image threshold).flatMap (creationsFor defaultNamespace ·.call) =
      [podCreation image threshold b.node] := by
  rw [Block.exchanges, List.flatMap_cons, creationsFor_pod, List.singleton_append]
  refine congrArg (List.cons _) (List.flatMap_eq_nil_iff.mpr fun x hx => ?_)
  rcases List.mem_append.mp hx with hpod | hnode
  · split at hpod
    · obtain ⟨a, -, rfl⟩ := List.mem_map.mp hpod
      rfl
    · cases hpod
  · obtain ⟨a, -, rfl⟩ := List.mem_map.mp hnode
    rfl

/-! ## The nodes -/

/-- A node has a name and carries the label of the control-plane role. -/
structure IsControlPlane (node : Node) : Prop where
  named : ∃ name, node.metadata.name = some name
  role : ∃ value, ("node-role.kubernetes.io/control-plane", value) ∈ node.metadata.labels.getD []

/-- The label may have any value. -/
theorem exists_ofLabels_iff {name : String} {labels : Cluster.Labels} :
    (∃ target, ControlPlaneNode.ofLabels name labels = .ok target) ↔
      ∃ value, ("node-role.kubernetes.io/control-plane", value) ∈ labels := by
  rw [ControlPlaneNode.ofLabels]
  constructor
  · rintro ⟨target, htarget⟩
    split at htarget
    · next hany =>
      obtain ⟨⟨key, value⟩, hmem, hkey⟩ := List.any_eq_true.mp hany
      obtain rfl := beq_iff_eq.mp hkey
      exact ⟨value, hmem⟩
    · cases htarget
  · rintro ⟨value, hmem⟩
    refine ⟨⟨name, labels⟩, if_pos ?_⟩
    rw [List.any_eq_true]
    exact ⟨_, hmem, beq_self_eq_true Maintenance.roleLabel⟩

/-- The nodes that are read are the control-plane nodes. -/
theorem exists_ofNode_iff {node : Node} :
    (∃ target, ControlPlaneNode.ofNode node = .ok target) ↔ IsControlPlane node := by
  rw [ControlPlaneNode.ofNode]
  cases hname : node.metadata.name with
  | none =>
    constructor
    · rintro ⟨target, htarget⟩
      cases htarget
    · rintro ⟨⟨name, hsome⟩, -⟩
      rw [hname] at hsome
      cases hsome
  | some name =>
    refine exists_ofLabels_iff.trans ?_
    exact ⟨fun hrole => ⟨⟨name, hname⟩, hrole⟩, fun h => h.role⟩

theorem name_of_ofNode {node : Node} {target : ControlPlaneNode}
    (h : ControlPlaneNode.ofNode node = .ok target) : node.metadata.name = some target.name := by
  rw [ControlPlaneNode.ofNode] at h
  cases hname : node.metadata.name with
  | none =>
    rw [hname] at h
    cases h
  | some name =>
    rw [hname] at h
    dsimp only [ControlPlaneNode.ofLabels] at h
    split at h
    · cases h
      rfl
    · cases h

/-- A listing is read as a whole or not at all: one node that is no control-plane node spoils it. -/
theorem exists_readNodes_iff {found : List Node} :
    (∃ targets, readNodes (.ok found) = .ok targets) ↔ ∀ node ∈ found, IsControlPlane node := by
  rw [readNodes, ← fault?_eq_none_iff, fault?_mapM, List.findSome?_eq_none_iff]
  simp only [fault?_eq_none_iff, exists_ofNode_iff]

/-! ## Renewals -/

/-- The pod of a document is bound to the node of a name, and its own name starts with it. -/
structure BoundTo (node : String) (pod : Json) : Prop where
  kind : pod.getString? "kind" = some "Pod"
  nodeName : (pod.get? "spec").bind (Json.getString? "nodeName") = some node
  nodeSelector : (pod.get? "spec").bind (Json.get? "nodeSelector") = none
  generateName :
    (pod.get? "metadata").bind (Json.getString? "generateName") =
      some ("cert-renew-" ++ node ++ "-")

/-- A maintenance pod is bound to its node by name, without a selector. -/
theorem boundTo_pod (node : ControlPlaneNode) (threshold : String) (image : Maintenance.Image) :
    BoundTo node.name (Maintenance.pod node threshold image).toJson where
  kind := rfl
  nodeName := rfl
  nodeSelector := rfl
  generateName := rfl

/-- A request creates a pod that is bound to a control-plane node. -/
def CreatesPodOn (node : Node) (r : Request) : Prop :=
  IsControlPlane node ∧ ∃ name pod, node.metadata.name = some name ∧ BoundTo name pod ∧
    r = ⟨.post, "/api/v1/namespaces/kube-system/pods?".toList, some ⟨"application/json", pod⟩⟩

/-- The nodes of a listing that is read are those that pods are created on. -/
theorem forall₂_createsPodOn {found : List Node} {targets : List ControlPlaneNode}
    (image : Maintenance.Image) (threshold : String) (h : readNodes (.ok found) = .ok targets) :
    List.Forall₂ CreatesPodOn found (targets.map (podCreation image threshold)) := by
  rw [List.forall₂_map_right_iff]
  refine (forall₂_of_mapM h).imp fun node target htarget => ?_
  refine ⟨exists_ofNode_iff.mp ⟨target, htarget⟩, target.name, _, name_of_ofNode htarget, ?_, rfl⟩
  exact boundTo_pod target threshold image

/-- Nodes that are read from a listing are nodes of the listing, in its order. -/
theorem exists_prefix_createsPodOn {listing : Except Failure (List Node)} {targets : List ControlPlaneNode}
    (image : Maintenance.Image) (threshold : String) (h : targets <+: listed (readNodes listing)) :
    ∃ chosen, chosen <+: listing.toOption.getD [] ∧
      List.Forall₂ CreatesPodOn chosen (targets.map (podCreation image threshold)) := by
  cases hread : readNodes listing with
  | error cause =>
    rw [hread] at h
    obtain rfl := List.prefix_nil.mp h
    exact ⟨[], List.nil_prefix, .nil⟩
  | ok nodes =>
    rw [hread] at h
    cases listing with
    | error cause => cases hread
    | ok found =>
      refine ⟨found.take targets.length, List.take_prefix _ _, ?_⟩
      rw [List.prefix_iff_eq_take.mp h, List.length_take_of_le h.length_le, List.map_take]
      exact List.forall₂_take _ (forall₂_createsPodOn image threshold hread)

section Runs

variable {σ : Type} (server : (r : Request) → σ → Response × σ) (pause : Nat → σ → σ)
variable (policy : Polling.Policy) (image : Maintenance.Image) (threshold : String)
variable (defaultNamespace : String)

theorem run_listNodes (s : σ) :
    ((Server.maintenance defaultNamespace .listNodes).run server pause s).1 =
      readNodes ((server nodeListing s).1.object (Collection.readList Node.ofJson?)) := by
  rw [maintenance_listNodes]
  rfl

/-- The creations of a renewal are one pod for each node of a prefix of those that are listed, which
is not empty unless the listing is. -/
theorem creations_renew (s : σ) :
    ∃ targets, targets <+: listed
        (readNodes ((server nodeListing s).1.object (Collection.readList Node.ofJson?))) ∧
      (targets = [] → listed
        (readNodes ((server nodeListing s).1.object (Collection.readList Node.ofJson?))) = []) ∧
      creations (((renew policy image threshold).interpret
          (Server.maintenance defaultNamespace)).transcript server pause s) =
        targets.map (podCreation image threshold) := by
  obtain ⟨blocks, hblocks, htranscript⟩ := transcript_renewNodes
    (fun c s => (Server.maintenance defaultNamespace c).run server pause s) pause policy image
    threshold (listed ((Server.maintenance defaultNamespace .listNodes).run server pause s).1)
    ((Server.maintenance defaultNamespace .listNodes).run server pause s).2
  refine ⟨blocks.map (·.node), ?_, ?_, ?_⟩
  · rw [← run_listNodes]
    exact hblocks.listing_order
  · intro hnone
    rw [← run_listNodes server pause defaultNamespace, ← hblocks.continues ?_, hnone]
    rw [List.map_eq_nil_iff.mp hnone]
    exact List.forall_mem_nil _
  · rw [creations_interpret server pause (creations_maintenance server pause defaultNamespace),
      transcript_renew, htranscript, List.flatMap_cons, List.flatMap_assoc]
    simp only [creationsFor_exchanges]
    rw [List.map_map, List.map_eq_flatMap]
    rfl

/-- A renewal is one request for the nodes, and what follows is decided by what is read of them. -/
theorem renew_interpret :
    (renew policy image threshold).interpret (Server.maintenance defaultNamespace) =
      (Server.send nodeListing).bind fun response =>
        (afterListing policy image threshold
          (readNodes (response.object (Collection.readList Node.ofJson?)))).interpret
            (Server.maintenance defaultNamespace) := by
  rw [renew_eq]
  show (Server.maintenance defaultNamespace .listNodes).bind _ = _
  rw [maintenance_listNodes]
  rfl

/-- A listing with an error ends the renewal before anything is created. -/
theorem run_renew_of_listing_error {cause : Maintenance.Error} {s : σ}
    (h : readNodes ((server nodeListing s).1.object (Collection.readList Node.ofJson?)) =
      .error cause) :
    (((renew policy image threshold).interpret (Server.maintenance defaultNamespace)).run server
        pause s).1 = .error (.listNodes cause) := by
  have hsend : (Server.send nodeListing).run server pause s = server nodeListing s := rfl
  rw [renew_interpret, Dialogue.run_bind, hsend, h]
  rfl

/-- For every server, an in-place renewal begins with a listing of nodes. If any of the nodes that
the server lists has no name or does not carry the label of the role, then nothing is created, and
the renewal fails because the nodes could not be listed. In any case what is created is one pod for
each node of a prefix of those that are listed, in their order, and each is bound to its node; the
prefix is not empty when there are nodes and all of them are control-plane nodes. -/
theorem renew_creates_on_control_plane (server : (r : Request) → σ → Response × σ)
    (pause : Nat → σ → σ) (policy : Polling.Policy) (image : Maintenance.Image)
    (threshold defaultNamespace : String) (s : σ) :
    let renewal := (renew policy image threshold).interpret (Server.maintenance defaultNamespace)
    let exchanges := renewal.transcript server pause s
    let listing := (server nodeListing s).1.object (Collection.readList Node.ofJson?)
    exchanges.head? = some ⟨nodeListing, (server nodeListing s).1⟩ ∧
    (∀ found, listing = .ok found → (∃ node ∈ found, ¬ IsControlPlane node) →
      creations exchanges = [] ∧
        ∃ cause, (renewal.run server pause s).1 = .error (.listNodes cause)) ∧
    (∀ found, listing = .ok found → found ≠ [] → (∀ node ∈ found, IsControlPlane node) →
      creations exchanges ≠ []) ∧
    ∃ targets, targets <+: listing.toOption.getD [] ∧
      List.Forall₂ CreatesPodOn targets (creations exchanges) := by
  intro renewal exchanges listing
  obtain ⟨targets, htargets, hnone, hcreations⟩ :=
    creations_renew server pause policy image threshold defaultNamespace s
  refine ⟨?_, ?_, ?_, ?_⟩
  · show (((renew policy image threshold).interpret _).transcript server pause s).head? = _
    rw [renew_interpret]
    rfl
  · rintro found hfound ⟨node, hnode, hbad⟩
    cases hread : readNodes listing with
    | error cause =>
      rw [hread] at htargets
      obtain rfl := List.prefix_nil.mp htargets
      exact ⟨hcreations, cause, run_renew_of_listing_error server pause policy image threshold
        defaultNamespace hread⟩
    | ok nodes =>
      rw [hfound] at hread
      exact absurd (exists_readNodes_iff.mp ⟨nodes, hread⟩ node hnode) hbad
  · intro found hfound hne hall hempty
    obtain ⟨nodes, hnodes⟩ := exists_readNodes_iff.mpr hall
    rw [hcreations, List.map_eq_nil_iff] at hempty
    have hlisted : listed (readNodes listing) = [] := hnone hempty
    rw [hfound, hnodes] at hlisted
    obtain rfl : nodes = [] := hlisted
    exact hne (List.length_eq_zero_iff.mp (forall₂_of_mapM hnodes).length_eq)
  · rw [hcreations]
    exact exists_prefix_createsPodOn image threshold htargets

end Runs

end CertRenewal.Renewal.InPlace
