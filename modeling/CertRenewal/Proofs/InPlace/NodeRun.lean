import CertRenewal.Proofs.InPlace.Answers

/-!
# The renewal of one node

`NodeRun` lists the ways in which the renewal of a node can go: the pod is not created, the pod does
not succeed, the node does not become ready, or all is well. Each comes with the exchanges, as a
`Block`, with the result, and with the state of the client afterwards.

`exists_nodeRun` says that for every client one of them is the case, and `NodeRun.spec` that the
renewal then runs exactly so.
-/

namespace CertRenewal.Renewal.InPlace

open CertRenewal.Maintenance (ControlPlaneNode)
open CertRenewal.Polling (IsLast)
open CertRenewal.Dialogue (answerAt stateAfter)

/-- What is told about one node: the answer to the creation of its pod, and the answers to the
checks of the pod and of the node. -/
structure Block where
  node : ControlPlaneNode
  created : PodAnswer
  podAnswers : List PodAnswer
  nodeAnswers : List NodeAnswer

/-- The exchanges of a block. All checks of the pod ask for the pod that was created. -/
def Block.exchanges (image : Maintenance.Image) (threshold : String) (b : Block) :
    List (Exchange Maintenance.Call.Answer) :=
  ⟨.createPod b.node (Maintenance.pod b.node threshold image), b.created⟩ ::
    ((match createdPod? b.created with
      | some (namespace_, pod) => b.podAnswers.map fun a => ⟨.getPod namespace_ pod, a⟩
      | none => []) ++
    b.nodeAnswers.map fun a => ⟨.getNode b.node.name, a⟩)

variable {σ : Type} (client : (c : Maintenance.Call) → σ → c.Answer × σ) (pause : Nat → σ → σ)
variable (policy : Polling.Policy) (image : Maintenance.Image) (threshold : String)

def creation (node : ControlPlaneNode) (s : σ) : PodAnswer :=
  (client (.createPod node (Maintenance.pod node threshold image)) s).1

def afterCreation (node : ControlPlaneNode) (s : σ) : σ :=
  (client (.createPod node (Maintenance.pod node threshold image)) s).2

/-- How the renewal of a node goes when it begins in a state: its exchanges, its result, and the
state that it leaves. -/
inductive NodeRun (node : ControlPlaneNode) (s : σ) : Block → Except Error Unit → σ → Prop where
  | uncreated {e : Error}
      (hcreated : createdPod? (creation client image threshold node s) = none)
      (he : createResult node.name (creation client image threshold node s) = .error e) :
      NodeRun node s ⟨node, creation client image threshold node s, [], []⟩ (.error e)
        (afterCreation client image threshold node s)
  | unsuccessful {s₁ : σ} {created : String × String} {n : Nat} {e : Error}
      (hs₁ : s₁ = afterCreation client image threshold node s)
      (hcreated : createdPod? (creation client image threshold node s) = some created)
      (hpod : IsLast (fun i => podFinding (podAnswer client pause policy created s₁ i) ≠ .undecided)
        policy.budget n)
      (he : podResult node.name created n
        (podFinding (podAnswer client pause policy created s₁ n)) = .error e) :
      NodeRun node s
        ⟨node, creation client image threshold node s,
          (List.range (n + 1)).map (podAnswer client pause policy created s₁), []⟩
        (.error e) (afterPodCheck client pause policy created s₁ n)
  | checked {s₁ s₂ : σ} {created : String × String} {n m : Nat}
      (hs₁ : s₁ = afterCreation client image threshold node s)
      (hcreated : createdPod? (creation client image threshold node s) = some created)
      (hpod : IsLast (fun i => podFinding (podAnswer client pause policy created s₁ i) ≠ .undecided)
        policy.budget n)
      (hsucceeded : podFinding (podAnswer client pause policy created s₁ n) = .succeeded)
      (hs₂ : s₂ = afterPodCheck client pause policy created s₁ n)
      (hnode : IsLast (fun i => SaysReady (nodeAnswer client pause policy node.name s₂ i))
        policy.budget m) :
      NodeRun node s
        ⟨node, creation client image threshold node s,
          (List.range (n + 1)).map (podAnswer client pause policy created s₁),
          (List.range (m + 1)).map (nodeAnswer client pause policy node.name s₂)⟩
        (nodeResult node.name m (nodeAnswer client pause policy node.name s₂ m))
        (afterNodeCheck client pause policy node.name s₂ m)

/-! ## Creation -/

theorem run_createPod (node : ControlPlaneNode) (s : σ) :
    (createPod image threshold node).run client pause s =
      (createResult node.name (creation client image threshold node s),
        afterCreation client image threshold node s) := by
  rw [createPod_eq]
  rfl

theorem transcript_createPod (node : ControlPlaneNode) (s : σ) :
    (createPod image threshold node).transcript client pause s =
      [⟨.createPod node (Maintenance.pod node threshold image),
        creation client image threshold node s⟩] := by
  rw [createPod_eq]
  rfl

/-- A pod that was created with a name is what a creation results in. -/
theorem createResult_ok {node : String} {a : PodAnswer} {created : String × String}
    (h : createdPod? a = some created) : createResult node a = .ok created := by
  cases a with
  | error cause => simp [createdPod?] at h
  | ok pod => simp [createResult, h]

/-- Without a name for the created pod there is nothing to wait for. -/
theorem createResult_error (node : String) {a : PodAnswer} (h : createdPod? a = none) :
    ∃ e, createResult node a = .error e := by
  cases a with
  | error cause => exact ⟨_, rfl⟩
  | ok pod => exact ⟨.podWithoutName node, by simp [createResult, h]⟩

theorem podResult_error (node : String) (created : String × String) (made : Nat) {f : PodFinding}
    (h : f ≠ .succeeded) : ∃ e, podResult node created made f = .error e := by
  cases f with
  | succeeded => exact absurd rfl h
  | failed => exact ⟨_, rfl⟩
  | undecided => exact ⟨_, rfl⟩

/-! ## Every renewal of a node -/

/-- One of the ways is always the case: the answers of the client say which. -/
theorem exists_nodeRun (node : ControlPlaneNode) (s : σ) :
    ∃ b r s', NodeRun client pause policy image threshold node s b r s' := by
  cases hcreated : createdPod? (creation client image threshold node s) with
  | none =>
    obtain ⟨e, he⟩ := createResult_error node.name hcreated
    exact ⟨_, _, _, .uncreated hcreated he⟩
  | some created =>
    obtain ⟨s₁, hs₁⟩ : ∃ s₁, s₁ = afterCreation client image threshold node s := ⟨_, rfl⟩
    obtain ⟨n, hpod⟩ : ∃ n, IsLast (fun i =>
        podFinding (podAnswer client pause policy created s₁ i) ≠ .undecided) policy.budget n :=
      IsLast.exists_of_pos policy.budget_pos
    by_cases hsucceeded : podFinding (podAnswer client pause policy created s₁ n) = .succeeded
    · obtain ⟨s₂, hs₂⟩ : ∃ s₂, s₂ = afterPodCheck client pause policy created s₁ n := ⟨_, rfl⟩
      obtain ⟨m, hnode⟩ : ∃ m, IsLast (fun i =>
          SaysReady (nodeAnswer client pause policy node.name s₂ i)) policy.budget m :=
        IsLast.exists_of_pos policy.budget_pos
      exact ⟨_, _, _, .checked hs₁ hcreated hpod hsucceeded hs₂ hnode⟩
    · obtain ⟨e, he⟩ := podResult_error node.name created n hsucceeded
      exact ⟨_, _, _, .unsuccessful hs₁ hcreated hpod he⟩

variable {client pause policy image threshold}

/-- The renewal of a node runs as it is listed. -/
theorem NodeRun.spec {node : ControlPlaneNode} {s s' : σ} {b : Block} {r : Except Error Unit}
    (h : NodeRun client pause policy image threshold node s b r s') :
    (renewNode policy image threshold node).run client pause s = (r, s') ∧
      (renewNode policy image threshold node).transcript client pause s =
        b.exchanges image threshold := by
  have hcreate := run_createPod client pause image threshold node s
  have hasked := transcript_createPod client pause image threshold node s
  cases h with
  | uncreated hcreated he =>
    rw [he] at hcreate
    constructor
    · exact Dialogue.run_andThen_error client pause _ hcreate
    · rw [renewNode, Dialogue.transcript_andThen_error client pause _ hcreate, hasked]
      simp [Block.exchanges, hcreated]
  | unsuccessful hs₁ hcreated hpod he =>
    rw [createResult_ok hcreated, ← hs₁] at hcreate
    have hwait := run_waitForPod node.name hpod
    rw [he] at hwait
    constructor
    · rw [renewNode, Dialogue.run_andThen_ok client pause _ hcreate]
      exact Dialogue.run_andThen_error client pause _ hwait
    · rw [renewNode, Dialogue.transcript_andThen_ok client pause _ hcreate, hasked]
      dsimp only
      rw [Dialogue.transcript_andThen_error client pause _ hwait, transcript_waitForPod _ hpod]
      simp only [Block.exchanges, hcreated, List.map_nil, List.append_nil, List.singleton_append]
      rfl
  | checked hs₁ hcreated hpod hsucceeded hs₂ hnode =>
    rw [createResult_ok hcreated, ← hs₁] at hcreate
    have hwait := run_waitForPod node.name hpod
    rw [hsucceeded, ← hs₂] at hwait
    constructor
    · rw [renewNode, Dialogue.run_andThen_ok client pause _ hcreate]
      dsimp only
      rw [Dialogue.run_andThen_ok client pause _ hwait, run_waitForNode hnode]
    · rw [renewNode, Dialogue.transcript_andThen_ok client pause _ hcreate, hasked]
      dsimp only
      rw [Dialogue.transcript_andThen_ok client pause _ hwait, transcript_waitForPod _ hpod,
        transcript_waitForNode hnode]
      simp only [Block.exchanges, hcreated, List.singleton_append]
      rfl

end CertRenewal.Renewal.InPlace
