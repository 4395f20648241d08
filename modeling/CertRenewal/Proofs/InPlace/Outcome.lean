import CertRenewal.Proofs.InPlace.NodeRun

/-!
# The result of an in-place renewal

The result follows from the decisive answers alone. `NodeRenewed` and `NodeFails` say of one node
which answers renew it and which make it fail, in terms of the answers that the client would give to
each check within the budget. `AllRenewed` puts nodes that are renewed one behind the other.

`renew_result` is the main statement: a renewal succeeds exactly when all listed nodes are renewed,
and otherwise ends with the error of the listing or of the first node that fails.
-/

namespace CertRenewal.Renewal.InPlace

open CertRenewal.Maintenance (ControlPlaneNode)
open CertRenewal.Polling (IsLast)

/-- The first decisive answer within the budget is the one of number `n`. -/
structure PodDecided (answers : Nat → PodAnswer) (budget n : Nat) (finding : PodFinding) :
    Prop where
  within : n < budget
  found : podFinding (answers n) = finding
  first : ∀ i < n, podFinding (answers i) = .undecided

/-- The first answer within the budget that says that a node is ready is the one of number `n`. -/
structure FirstReady (answers : Nat → NodeAnswer) (budget n : Nat) : Prop where
  within : n < budget
  ready : SaysReady (answers n)
  first : ∀ i < n, ¬ SaysReady (answers i)

section

variable {σ : Type} (client : (c : Maintenance.Call) → σ → c.Answer × σ) (pause : Nat → σ → σ)
variable (policy : Polling.Policy) (image : Maintenance.Image) (threshold : String)

/-- A node is renewed from one state to another: its pod is created with a name and succeeds, and
some answer says that the node is ready. -/
inductive NodeRenewed (node : ControlPlaneNode) (s : σ) : σ → Prop where
  | intro {s₁ s₂ : σ} {created : String × String} {n m : Nat}
      (hs₁ : s₁ = afterCreation client image threshold node s)
      (hcreated : createdPod? (creation client image threshold node s) = some created)
      (hpod : PodDecided (podAnswer client pause policy created s₁) policy.budget n .succeeded)
      (hs₂ : s₂ = afterPodCheck client pause policy created s₁ n)
      (hready : FirstReady (nodeAnswer client pause policy node.name s₂) policy.budget m) :
      NodeRenewed node s (afterNodeCheck client pause policy node.name s₂ m)

/-- A node that is reached in a state fails with an error. -/
inductive NodeFails (node : ControlPlaneNode) (s : σ) : Error → Prop where
  | createPod {cause : Maintenance.Error}
      (h : creation client image threshold node s = .error cause) :
      NodeFails node s (.createPod node.name cause)
  | podWithoutName {pod : Cluster.Pod} (h : creation client image threshold node s = .ok pod)
      (hname : pod.metadata.name = none) :
      NodeFails node s (.podWithoutName node.name)
  | podFailed {s₁ : σ} {namespace_ pod : String} {n : Nat}
      (hs₁ : s₁ = afterCreation client image threshold node s)
      (hcreated : createdPod? (creation client image threshold node s) = some (namespace_, pod))
      (hpod : PodDecided (podAnswer client pause policy (namespace_, pod) s₁) policy.budget n
        .failed) :
      NodeFails node s (.podFailed node.name namespace_ pod)
  | podTimeout {s₁ : σ} {namespace_ pod : String}
      (hs₁ : s₁ = afterCreation client image threshold node s)
      (hcreated : createdPod? (creation client image threshold node s) = some (namespace_, pod))
      (hpod : ∀ i < policy.budget,
        podFinding (podAnswer client pause policy (namespace_, pod) s₁ i) = .undecided) :
      NodeFails node s (.podTimeout node.name namespace_ pod policy.budget)
  | nodeUnhealthy {s₁ s₂ : σ} {created : String × String} {n : Nat}
      (hs₁ : s₁ = afterCreation client image threshold node s)
      (hcreated : createdPod? (creation client image threshold node s) = some created)
      (hpod : PodDecided (podAnswer client pause policy created s₁) policy.budget n .succeeded)
      (hs₂ : s₂ = afterPodCheck client pause policy created s₁ n)
      (hnode : ∀ i < policy.budget, ¬ SaysReady (nodeAnswer client pause policy node.name s₂ i)) :
      NodeFails node s (.nodeUnhealthy node.name policy.budget)

/-- Nodes are renewed one after the other, from one state to another. -/
inductive AllRenewed : List ControlPlaneNode → σ → σ → Prop where
  | nil {s : σ} : AllRenewed [] s s
  | cons {node : ControlPlaneNode} {rest : List ControlPlaneNode} {s s₁ s₂ : σ}
      (h : NodeRenewed client pause policy image threshold node s s₁)
      (hrest : AllRenewed rest s₁ s₂) : AllRenewed (node :: rest) s s₂

end

variable {σ : Type} {client : (c : Maintenance.Call) → σ → c.Answer × σ} {pause : Nat → σ → σ}
variable {policy : Polling.Policy} {image : Maintenance.Image} {threshold : String}

/-! ## Decisive answers and last checks -/

/-- The first decisive answer ends the checks. -/
theorem PodDecided.isLast {answers : Nat → PodAnswer} {budget n : Nat} {finding : PodFinding}
    (h : PodDecided answers budget n finding) (hdecisive : finding ≠ .undecided) :
    IsLast (fun i => podFinding (answers i) ≠ .undecided) budget n := by
  refine IsLast.of_decisive h.within (fun i hi => not_not_intro (h.first i hi)) ?_
  rw [h.found]
  exact hdecisive

/-- Nothing in front of the answer that ends the checks is decisive. -/
theorem podDecided_of_isLast {answers : Nat → PodAnswer} {budget n : Nat}
    (h : IsLast (fun i => podFinding (answers i) ≠ .undecided) budget n) :
    PodDecided answers budget n (podFinding (answers n)) :=
  ⟨h.within, rfl, fun i hi => not_not.mp (h.undecided i hi)⟩

theorem firstReady_of_isLast {answers : Nat → NodeAnswer} {budget n : Nat}
    (h : IsLast (fun i => SaysReady (answers i)) budget n) (hready : SaysReady (answers n)) :
    FirstReady answers budget n :=
  ⟨h.within, hready, h.undecided⟩

/-! ## One node -/

variable {node : ControlPlaneNode} {s s' : σ} {b : Block} {r : Except Error Unit} {e : Error}

theorem NodeRun.renewed (h : NodeRun client pause policy image threshold node s b r s')
    (hr : r = .ok ()) : NodeRenewed client pause policy image threshold node s s' := by
  cases h with
  | uncreated hcreated he => exact absurd hr (by simp)
  | unsuccessful hs₁ hcreated hpod he => exact absurd hr (by simp)
  | checked hs₁ hcreated hpod hsucceeded hs₂ hnode =>
    have hdecided := podDecided_of_isLast hpod
    rw [hsucceeded] at hdecided
    refine .intro hs₁ hcreated hdecided hs₂ (firstReady_of_isLast hnode ?_)
    by_contra hunready
    rw [nodeResult_unready _ _ hunready] at hr
    exact absurd hr (by simp)

theorem NodeRun.fails (h : NodeRun client pause policy image threshold node s b r s')
    (hr : r = .error e) : NodeFails client pause policy image threshold node s e := by
  cases h with
  | uncreated hcreated he =>
    rw [Except.error.inj hr] at he
    cases hcreation : creation client image threshold node s with
    | error cause =>
      rw [hcreation] at he
      cases he
      exact .createPod hcreation
    | ok pod =>
      rw [hcreation] at hcreated he
      have hname : pod.metadata.name = none := by simpa [createdPod?] using hcreated
      simp only [createResult, hcreated, Except.error.injEq] at he
      exact he ▸ .podWithoutName hcreation hname
  | @unsuccessful s₁ created n e' hs₁ hcreated hpod he =>
    rw [hr] at he
    have hdecided := podDecided_of_isLast hpod
    cases hfinding : podFinding (podAnswer client pause policy created s₁ n) with
    | succeeded =>
      rw [hfinding] at he
      exact absurd he (by simp [podResult])
    | failed =>
      rw [hfinding] at he hdecided
      cases he
      exact .podFailed hs₁ hcreated hdecided
    | undecided =>
      rw [hfinding] at he
      obtain ⟨hspent, hall⟩ := hpod.spent (not_not_intro hfinding)
      cases he
      rw [hspent]
      exact .podTimeout hs₁ hcreated fun i hi => not_not.mp (hall i hi)
  | @checked s₁ s₂ created n m hs₁ hcreated hpod hsucceeded hs₂ hnode =>
    have hdecided := podDecided_of_isLast hpod
    rw [hsucceeded] at hdecided
    have hunready : ¬ SaysReady (nodeAnswer client pause policy node.name s₂ m) := by
      intro hready
      rw [nodeResult_ready _ _ hready] at hr
      exact absurd hr (by simp)
    obtain ⟨hspent, hall⟩ := hnode.spent hunready
    rw [nodeResult_unready _ _ hunready, hspent] at hr
    cases hr
    exact .nodeUnhealthy hs₁ hcreated hdecided hs₂ hall

/-- Answers that renew a node are those of a run that succeeds. -/
theorem NodeRenewed.nodeRun (h : NodeRenewed client pause policy image threshold node s s') :
    ∃ b, NodeRun client pause policy image threshold node s b (.ok ()) s' := by
  obtain ⟨hs₁, hcreated, hpod, hs₂, hready⟩ := h
  have hnode := IsLast.of_decisive hready.within hready.first hready.ready
  have hrun := NodeRun.checked hs₁ hcreated (hpod.isLast (by simp)) hpod.found hs₂ hnode
  rw [nodeResult_ready _ _ hready.ready] at hrun
  exact ⟨_, hrun⟩

/-- Answers that make a node fail are those of a run that fails with the same error. -/
theorem NodeFails.nodeRun (h : NodeFails client pause policy image threshold node s e) :
    ∃ b s', NodeRun client pause policy image threshold node s b (.error e) s' := by
  have hpos := policy.budget_pos
  have hspent : policy.budget - 1 + 1 = policy.budget := Nat.sub_add_cancel hpos
  cases h with
  | createPod h =>
    exact ⟨_, _, .uncreated (by simp [h, createdPod?]) (by simp [h, createResult])⟩
  | podWithoutName h hname =>
    exact ⟨_, _, .uncreated (by simp [h, createdPod?, hname])
      (by simp [h, createResult, createdPod?, hname])⟩
  | podFailed hs₁ hcreated hpod =>
    refine ⟨_, _, .unsuccessful hs₁ hcreated (hpod.isLast (by simp)) ?_⟩
    rw [hpod.found]
    rfl
  | podTimeout hs₁ hcreated hpod =>
    refine ⟨_, _, .unsuccessful hs₁ hcreated
      (IsLast.of_spent hpos fun i hi => not_not_intro (hpod i hi)) ?_⟩
    rw [hpod _ (by omega), podResult, hspent]
  | nodeUnhealthy hs₁ hcreated hpod hs₂ hnode =>
    have hrun := NodeRun.checked hs₁ hcreated (hpod.isLast (by simp)) hpod.found hs₂
      (IsLast.of_spent hpos hnode)
    rw [nodeResult_unready _ _ (hnode _ (by omega)), hspent] at hrun
    exact ⟨_, _, hrun⟩

/-- A node is renewed exactly as the answers say. -/
theorem run_renewNode_ok_iff :
    (renewNode policy image threshold node).run client pause s = (.ok (), s') ↔
      NodeRenewed client pause policy image threshold node s s' := by
  constructor
  · intro hrun
    obtain ⟨b, r, s'', hnode⟩ := exists_nodeRun client pause policy image threshold node s
    rw [hnode.spec.1, Prod.mk.injEq] at hrun
    exact hrun.2 ▸ hnode.renewed hrun.1
  · intro h
    obtain ⟨b, hnode⟩ := h.nodeRun
    exact hnode.spec.1

/-- The renewal of a node has the error with which the node fails, and no other. -/
theorem run_renewNode_error_iff :
    ((renewNode policy image threshold node).run client pause s).1 = .error e ↔
      NodeFails client pause policy image threshold node s e := by
  constructor
  · intro hrun
    obtain ⟨b, r, s', hnode⟩ := exists_nodeRun client pause policy image threshold node s
    rw [hnode.spec.1] at hrun
    exact hnode.fails hrun
  · intro h
    obtain ⟨b, s', hnode⟩ := h.nodeRun
    rw [hnode.spec.1]

/-! ## All nodes -/

/-- Nodes are renewed exactly when each is, and their names are given in order. The induction
follows the nodes, and threads the state of the client through them. -/
theorem run_renewNodes_ok_iff (nodes : List ControlPlaneNode) (names : List String) (s s' : σ) :
    (renewNodes policy image threshold nodes).run client pause s = (.ok names, s') ↔
      AllRenewed client pause policy image threshold nodes s s' ∧
        names = nodes.map (·.name) := by
  induction nodes generalizing names s with
  | nil =>
    rw [renewNodes, Dialogue.run_done, Prod.mk.injEq, Except.ok.injEq]
    constructor
    · rintro ⟨rfl, rfl⟩
      exact ⟨.nil, rfl⟩
    · rintro ⟨hall, rfl⟩
      cases hall
      exact ⟨rfl, rfl⟩
  | cons node rest ih =>
    rw [renewNodes, Dialogue.run_andThen_ok_iff]
    constructor
    · rintro ⟨⟨⟩, s₁, hnode, hmore⟩
      obtain ⟨more, s₂, hrest, hdone⟩ := (Dialogue.run_andThen_ok_iff ..).mp hmore
      obtain ⟨hall, rfl⟩ := (ih more s₁).mp (by cases hdone; exact hrest)
      cases hdone
      exact ⟨.cons (run_renewNode_ok_iff.mp hnode) hall, rfl⟩
    · rintro ⟨hall, rfl⟩
      cases hall with
      | @cons _ _ _ s₁ _ hnode hrest =>
        refine ⟨(), s₁, run_renewNode_ok_iff.mpr hnode, ?_⟩
        rw [Dialogue.run_andThen_ok_iff]
        exact ⟨rest.map (·.name), s', (ih _ s₁).mpr ⟨hrest, rfl⟩, rfl⟩

/-- Nodes fail exactly with the error of the first one that is not renewed. -/
theorem run_renewNodes_error_iff (nodes : List ControlPlaneNode) (e : Error) (s : σ) :
    ((renewNodes policy image threshold nodes).run client pause s).1 = .error e ↔
      ∃ before node after s', nodes = before ++ node :: after ∧
        AllRenewed client pause policy image threshold before s s' ∧
        NodeFails client pause policy image threshold node s' e := by
  induction nodes generalizing s with
  | nil =>
    rw [renewNodes, Dialogue.run_done]
    simp
  | cons node rest ih =>
    rw [renewNodes, Dialogue.run_andThen_error_iff]
    constructor
    · rintro (hnode | ⟨⟨⟩, s₁, hnode, hmore⟩)
      · exact ⟨[], node, rest, s, rfl, .nil, run_renewNode_error_iff.mp hnode⟩
      · rw [Dialogue.run_andThen_error_iff] at hmore
        have hrest := hmore.resolve_right (by simp)
        obtain ⟨before, failing, after, s', rfl, hall, hfails⟩ := (ih s₁).mp hrest
        exact ⟨node :: before, failing, after, s', rfl,
          .cons (run_renewNode_ok_iff.mp hnode) hall, hfails⟩
    · rintro ⟨before, failing, after, s', hsplit, hall, hfails⟩
      cases hall with
      | nil =>
        obtain ⟨rfl, rfl⟩ := List.cons.inj hsplit
        exact Or.inl (run_renewNode_error_iff.mpr hfails)
      | @cons _ _ _ s₁ _ hnode hrest =>
        obtain ⟨rfl, rfl⟩ := List.cons.inj hsplit
        refine Or.inr ⟨(), s₁, run_renewNode_ok_iff.mpr hnode, ?_⟩
        rw [Dialogue.run_andThen_error_iff]
        exact Or.inl ((ih s₁).mpr ⟨_, failing, after, s', rfl, hrest, hfails⟩)

/-! ## The listing -/

/-- A renewal succeeds exactly when nodes are listed and all of them are renewed. -/
theorem run_afterListing_ok_iff (listing : Except Maintenance.Error (List ControlPlaneNode))
    (names : List String) (s : σ) :
    ((afterListing policy image threshold listing).run client pause s).1 = .ok names ↔
      ∃ nodes s', listing = .ok nodes ∧ nodes ≠ [] ∧
        AllRenewed client pause policy image threshold nodes s s' ∧
        names = nodes.map (·.name) := by
  match listing with
  | .error cause => simp [afterListing]
  | .ok [] =>
    constructor
    · intro h
      cases h
    · rintro ⟨nodes, s', heq, hne, -⟩
      exact absurd (Except.ok.inj heq).symm hne
  | .ok (node :: rest) =>
    constructor
    · intro h
      obtain ⟨hall, hnames⟩ :=
        (run_renewNodes_ok_iff (node :: rest) names s _).mp (Prod.ext h rfl)
      exact ⟨node :: rest, _, rfl, by simp, hall, hnames⟩
    · rintro ⟨nodes, s', heq, -, hall, hnames⟩
      cases heq
      rw [afterListing, (run_renewNodes_ok_iff (node :: rest) names s s').mpr ⟨hall, hnames⟩]

/-- It fails with the error of the listing, for lack of nodes, or with the error of the first node
that fails. -/
theorem run_afterListing_error_iff (listing : Except Maintenance.Error (List ControlPlaneNode))
    (e : Error) (s : σ) :
    ((afterListing policy image threshold listing).run client pause s).1 = .error e ↔
      (∃ cause, listing = .error cause ∧ e = .listNodes cause) ∨
      (listing = .ok [] ∧ e = .noNodes) ∨
      ∃ before node after s', listing = .ok (before ++ node :: after) ∧
        AllRenewed client pause policy image threshold before s s' ∧
        NodeFails client pause policy image threshold node s' e := by
  match listing with
  | .error cause => simp [afterListing, eq_comm]
  | .ok [] => simp [afterListing, eq_comm]
  | .ok (node :: rest) =>
    rw [afterListing, run_renewNodes_error_iff]
    simp

/-- For every client and every policy of at most `max 1 policy.maxAttempts` checks, the result of an
in-place renewal is a list of names exactly when there are nodes and all of them are renewed, and
these are then the names of all of them in the order of the listing. It is an error exactly when
that is the error of the listing or of the first node that fails. -/
theorem renew_result (client : (c : Maintenance.Call) → σ → c.Answer × σ) (pause : Nat → σ → σ)
    (policy : Polling.Policy) (image : Maintenance.Image) (threshold : String) (s : σ) :
    (∀ names, ((renew policy image threshold).run client pause s).1 = .ok names ↔
      ∃ nodes s', (client .listNodes s).1 = .ok nodes ∧ nodes ≠ [] ∧
        AllRenewed client pause policy image threshold nodes (client .listNodes s).2 s' ∧
        names = nodes.map (·.name)) ∧
    (∀ e, ((renew policy image threshold).run client pause s).1 = .error e ↔
      (∃ cause, (client .listNodes s).1 = .error cause ∧ e = .listNodes cause) ∨
      ((client .listNodes s).1 = .ok [] ∧ e = .noNodes) ∨
      ∃ before node after s', (client .listNodes s).1 = .ok (before ++ node :: after) ∧
        AllRenewed client pause policy image threshold before (client .listNodes s).2 s' ∧
        NodeFails client pause policy image threshold node s' e) := by
  rw [renew_eq]
  constructor
  · intro names
    exact run_afterListing_ok_iff (client .listNodes s).1 names (client .listNodes s).2
  · intro e
    exact run_afterListing_error_iff (client .listNodes s).1 e (client .listNodes s).2

end CertRenewal.Renewal.InPlace
