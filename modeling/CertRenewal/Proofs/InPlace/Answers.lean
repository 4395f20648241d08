import CertRenewal.Proofs.Polling
import CertRenewal.Renewal.InPlace

/-!
# What the answers mean to an in-place renewal

Each step of the renewal of a node is told by the answers that it gets. `podFinding` and `SaysReady`
sort the answers about pods and nodes into those that decide something and those that do not; an
error decides nothing.

`createPod_eq`, `run_waitForPod` and `run_waitForNode` give each step its result and the state that
it leaves, and `transcript_waitForPod` and `transcript_waitForNode` its exchanges. The theorems
about whole renewals use these and do not open the steps.
-/

namespace CertRenewal.Renewal.InPlace

open CertRenewal.Maintenance (ControlPlaneNode)
open CertRenewal.Polling (Check IsLast)
open CertRenewal.Dialogue (stateAt answerAt stateAfter)

abbrev PodAnswer := Except Maintenance.Error Cluster.Pod

abbrev NodeAnswer := Except Maintenance.Error Cluster.Node

/-! ## Kinds of answers -/

/-- What an answer says about the work of a pod. -/
inductive PodFinding where
  | succeeded
  | failed
  | undecided
  deriving DecidableEq, Repr

/-- A pod has succeeded or failed when its phase says exactly that. An error, a pod without a status
or a phase, and any other phase leave it open. -/
def podFinding : PodAnswer → PodFinding
  | .ok pod =>
    if pod.phase = some "Succeeded" then .succeeded
    else if pod.phase = some "Failed" then .failed
    else .undecided
  | .error _ => .undecided

/-- An answer says that a node is ready when some condition has the type `Ready` and the status
`True`. -/
def SaysReady : NodeAnswer → Prop
  | .ok node => ∃ c ∈ node.conditions, c.kind = some "Ready" ∧ c.status = some "True"
  | .error _ => False

/-- The namespace and name under which a pod has been created, if it has a name. A pod that is
returned without a namespace is where maintenance pods are. -/
def createdPod? : PodAnswer → Option (String × String)
  | .ok pod => pod.metadata.name.map fun name => (pod.metadata.namespace_.getD "kube-system", name)
  | .error _ => none

/-- The nodes of a listing; one that failed has none. -/
def listed : Except Maintenance.Error (List ControlPlaneNode) → List ControlPlaneNode
  | .ok nodes => nodes
  | .error _ => []

/-! ## Checks ask one question -/

def podCheck : PodAnswer → Check Unit
  | .ok pod => phaseCheck pod.phase
  | .error _ => .failed

def nodeCheck : NodeAnswer → Check Unit
  | .ok node => if node.isReady then .ready () else .notReady
  | .error _ => .failed

/-- The check of a pod is one question about it. -/
theorem checkPod_eq (namespace_ pod : String) :
    checkPod namespace_ pod =
      Polling.ofQuestion (Maintenance.Call.getPod namespace_ pod) podCheck := by
  refine congrArg (Dialogue.ask (Maintenance.Call.getPod namespace_ pod)) (funext fun answer => ?_)
  cases answer <;> rfl

theorem checkNode_eq (node : String) :
    checkNode node = Polling.ofQuestion (Maintenance.Call.getNode node) nodeCheck := by
  refine congrArg (Dialogue.ask (Maintenance.Call.getNode node)) (funext fun answer => ?_)
  cases answer with
  | error cause => rfl
  | ok object =>
    dsimp only [Dialogue.bind_eq, Dialogue.pure_eq, Dialogue.bind, nodeCheck]
    cases object.isReady <;> rfl

/-- A check of a pod is decisive when the pod has succeeded or failed. -/
theorem podCheck_decided (a : PodAnswer) :
    (podCheck a).decided = true ↔ podFinding a ≠ .undecided := by
  cases a with
  | error cause => simp [podCheck, podFinding, Check.decided]
  | ok pod =>
    simp only [podCheck, podFinding, phaseCheck]
    split <;> simp_all [Check.decided]

theorem saysReady_ok (node : Cluster.Node) : SaysReady (.ok node) ↔ node.isReady = true := by
  simp [SaysReady, Cluster.Node.isReady]

/-- A check of a node is decisive when the node is ready. -/
theorem nodeCheck_decided (a : NodeAnswer) : (nodeCheck a).decided = true ↔ SaysReady a := by
  cases a with
  | error cause => simp [nodeCheck, SaysReady, Check.decided]
  | ok node =>
    rw [saysReady_ok]
    cases h : node.isReady <;> simp [nodeCheck, h, Check.decided]

/-! ## Steps -/

def createResult (node : String) (a : PodAnswer) : Except Error (String × String) :=
  match a, createdPod? a with
  | .error cause, _ => .error (.createPod node cause)
  | .ok _, none => .error (.podWithoutName node)
  | .ok _, some created => .ok created

/-- The result of waiting for a pod whose last check, after `made` others, finds something. -/
def podResult (node : String) (created : String × String) (made : Nat) :
    PodFinding → Except Error Unit
  | .succeeded => .ok ()
  | .failed => .error (.podFailed node created.1 created.2)
  | .undecided => .error (.podTimeout node created.1 created.2 (made + 1))

/-- The result of waiting for a node whose last check, after `made` others, gets an answer. -/
def nodeResult (node : String) (made : Nat) : NodeAnswer → Except Error Unit
  | .ok object => if object.isReady then .ok () else .error (.nodeUnhealthy node (made + 1))
  | .error _ => .error (.nodeUnhealthy node (made + 1))

theorem nodeResult_ready {a : NodeAnswer} (node : String) (made : Nat) (h : SaysReady a) :
    nodeResult node made a = .ok () := by
  cases a with
  | error cause => exact absurd h id
  | ok object => rw [nodeResult, if_pos ((saysReady_ok object).mp h)]

theorem nodeResult_unready {a : NodeAnswer} (node : String) (made : Nat) (h : ¬ SaysReady a) :
    nodeResult node made a = .error (.nodeUnhealthy node (made + 1)) := by
  cases a with
  | error cause => rfl
  | ok object =>
    rw [saysReady_ok] at h
    rw [nodeResult, if_neg h]

section Streams

variable {σ : Type} (client : (c : Maintenance.Call) → σ → c.Answer × σ) (pause : Nat → σ → σ)
variable (policy : Polling.Policy)

/-- The answer to the check of number `i` of a pod, which is known by its namespace and name. -/
def podAnswer (created : String × String) (s : σ) (i : Nat) : PodAnswer :=
  answerAt client pause policy.interval (.getPod created.1 created.2) s i

def afterPodCheck (created : String × String) (s : σ) (i : Nat) : σ :=
  stateAfter client pause policy.interval (.getPod created.1 created.2) s i

def nodeAnswer (node : String) (s : σ) (i : Nat) : NodeAnswer :=
  answerAt client pause policy.interval (.getNode node) s i

def afterNodeCheck (node : String) (s : σ) (i : Nat) : σ :=
  stateAfter client pause policy.interval (.getNode node) s i

end Streams

variable {σ : Type} {client : (c : Maintenance.Call) → σ → c.Answer × σ} {pause : Nat → σ → σ}
variable {policy : Polling.Policy}

/-- Creating a pod is one question, and nothing else depends on the answer. -/
theorem createPod_eq (image : Maintenance.Image) (threshold : String) (node : ControlPlaneNode) :
    createPod image threshold node =
      .ask (.createPod node (Maintenance.pod node threshold image)) fun answer =>
        .done (createResult node.name answer) := by
  refine congrArg (Dialogue.ask _) (funext fun answer => ?_)
  cases answer with
  | error cause => rfl
  | ok created =>
    obtain ⟨⟨name, _⟩, _⟩ := created
    cases name <;> rfl

/-- Waiting for a pod asks about it up to the first answer that decides something. -/
theorem run_waitForPod (node : String) {created : String × String} {s : σ} {n : Nat}
    (h : IsLast (fun i => podFinding (podAnswer client pause policy created s i) ≠ .undecided)
      policy.budget n) :
    (waitForPod policy node created.1 created.2).run client pause s =
      (podResult node created n (podFinding (podAnswer client pause policy created s n)),
        afterPodCheck client pause policy created s n) := by
  have hlast := h.congr fun i => (podCheck_decided _).symm
  rw [waitForPod, checkPod_eq, Dialogue.run_mapError, Polling.run_poll_ofQuestion hlast]
  refine Prod.ext ?_ rfl
  show ((podCheck (podAnswer client pause policy created s n)).verdict n).mapError _ = _
  cases podAnswer client pause policy created s n with
  | error cause => rfl
  | ok object =>
    simp only [podCheck, podFinding, phaseCheck]
    split
    · rw [if_pos ‹_›]
      rfl
    · rw [if_neg (by simp [*]), if_pos ‹_›]
      rfl
    · rw [if_neg ‹_›, if_neg ‹_›]
      rfl

/-- Waiting for a pod asks about nothing but the pod, up to the first decisive answer. -/
theorem transcript_waitForPod (node : String) {created : String × String} {s : σ} {n : Nat}
    (h : IsLast (fun i => podFinding (podAnswer client pause policy created s i) ≠ .undecided)
      policy.budget n) :
    (waitForPod policy node created.1 created.2).transcript client pause s =
      ((List.range (n + 1)).map (podAnswer client pause policy created s)).map fun a =>
        ⟨.getPod created.1 created.2, a⟩ := by
  have hlast := h.congr fun i => (podCheck_decided _).symm
  rw [waitForPod, checkPod_eq, Dialogue.transcript_mapError,
    Polling.transcript_poll_ofQuestion hlast]
  exact (List.map_map ..).symm

/-- Waiting for a node asks about it up to the first answer that says that it is ready. -/
theorem run_waitForNode {node : String} {s : σ} {n : Nat}
    (h : IsLast (fun i => SaysReady (nodeAnswer client pause policy node s i)) policy.budget n) :
    (waitForNode policy node).run client pause s =
      (nodeResult node n (nodeAnswer client pause policy node s n),
        afterNodeCheck client pause policy node s n) := by
  have hlast := h.congr fun i => (nodeCheck_decided _).symm
  rw [waitForNode, checkNode_eq, Dialogue.run_mapError, Polling.run_poll_ofQuestion hlast]
  refine Prod.ext ?_ rfl
  show ((nodeCheck (nodeAnswer client pause policy node s n)).verdict n).mapError _ = _
  cases nodeAnswer client pause policy node s n with
  | error cause => rfl
  | ok object =>
    simp only [nodeCheck, nodeResult]
    split <;> rfl

/-- Waiting for a node asks about nothing but the node, until it is ready. -/
theorem transcript_waitForNode {node : String} {s : σ} {n : Nat}
    (h : IsLast (fun i => SaysReady (nodeAnswer client pause policy node s i)) policy.budget n) :
    (waitForNode policy node).transcript client pause s =
      ((List.range (n + 1)).map (nodeAnswer client pause policy node s)).map fun a =>
        ⟨.getNode node, a⟩ := by
  have hlast := h.congr fun i => (nodeCheck_decided _).symm
  rw [waitForNode, checkNode_eq, Dialogue.transcript_mapError,
    Polling.transcript_poll_ofQuestion hlast]
  exact (List.map_map ..).symm

/-! ## The listing -/

variable {image : Maintenance.Image} {threshold : String}

def afterListing (policy : Polling.Policy) (image : Maintenance.Image) (threshold : String) :
    Except Maintenance.Error (List ControlPlaneNode) →
      Maintenance.Dialogue (Except Error (List String))
  | .error cause => .done (.error (.listNodes cause))
  | .ok [] => .done (.error .noNodes)
  | .ok (node :: rest) => renewNodes policy image threshold (node :: rest)

theorem renew_eq (policy : Polling.Policy) (image : Maintenance.Image) (threshold : String) :
    renew policy image threshold = .ask .listNodes (afterListing policy image threshold) := by
  refine congrArg (Dialogue.ask Maintenance.Call.listNodes) (funext fun listing => ?_)
  rcases listing with cause | nodes
  · rfl
  · cases nodes <;> rfl

/-- A listing that fails or is empty ends the renewal, and otherwise the exchanges that follow are
those about the listed nodes. -/
theorem transcript_renew (policy : Polling.Policy) (image : Maintenance.Image) (threshold : String)
    (s : σ) :
    (renew policy image threshold).transcript client pause s =
      ⟨.listNodes, (client .listNodes s).1⟩ ::
        (renewNodes policy image threshold (listed (client .listNodes s).1)).transcript client pause
          (client .listNodes s).2 := by
  rw [renew_eq]
  refine congrArg (List.cons _) ?_
  rcases (client .listNodes s).1 with cause | nodes
  · rfl
  · cases nodes <;> rfl

end CertRenewal.Renewal.InPlace
