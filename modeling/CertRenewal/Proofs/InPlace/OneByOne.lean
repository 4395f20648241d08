import CertRenewal.Proofs.InPlace.NodeRun
import Mathlib.Data.List.Basic

/-!
# An in-place renewal asks about one node after the other

The exchanges of an in-place renewal are the listing of the nodes and then a list of blocks, one for
each node that is touched. `Block.Proper` says what a block is: one creation, then the checks of the
pod, then the checks of the node, where each part is there only if the one before it came to a good
end. `OneByOne` says how blocks follow each other: the next node is touched exactly when the last
answer about the node before it was that it is ready.

`renew_asks_one_by_one` is the main statement. It holds for every client, so that nothing is assumed
about the answers.
-/

namespace CertRenewal.Renewal.InPlace

open CertRenewal.Maintenance (ControlPlaneNode)
open CertRenewal.Polling (IsLast)

/-! ## Questions that are repeated -/

/-- The answers to a question that is asked at least once, at most as often as the budget allows,
and again exactly as long as no answer is decisive. -/
structure Repeated {α : Type} (decisive : α → Prop) (budget : Nat) (answers : List α) : Prop where
  asked : 1 ≤ answers.length
  within : answers.length ≤ budget
  undecided : ∀ a ∈ answers.dropLast, ¬ decisive a
  stops : (∃ a, answers.getLast? = some a ∧ decisive a) ∨ answers.length = budget

theorem dropLast_range_map {α : Type} (f : Nat → α) (n : Nat) :
    ((List.range (n + 1)).map f).dropLast = (List.range n).map f := by
  rw [List.range_succ, List.map_append, List.map_singleton, List.dropLast_concat]

theorem getLast?_range_map {α : Type} (f : Nat → α) (n : Nat) :
    ((List.range (n + 1)).map f).getLast? = some (f n) := by
  rw [List.range_succ, List.map_append, List.map_singleton, List.getLast?_concat]

/-- The answers up to the last check. -/
theorem Repeated.of_isLast {α : Type} {decisive : α → Prop} {budget n : Nat} {f : Nat → α}
    (h : IsLast (fun i => decisive (f i)) budget n) :
    Repeated decisive budget ((List.range (n + 1)).map f) := by
  have hlength : ((List.range (n + 1)).map f).length = n + 1 := by simp
  have hwithin := h.within
  refine ⟨by omega, by omega, ?_, ?_⟩
  · intro a ha
    rw [dropLast_range_map] at ha
    obtain ⟨i, hi, rfl⟩ := List.mem_map.mp ha
    exact h.undecided i (List.mem_range.mp hi)
  · rcases h.stops with hdecisive | hspent
    · exact Or.inl ⟨f n, getLast?_range_map f n, hdecisive⟩
    · exact Or.inr (hlength.trans hspent)

/-! ## Blocks -/

namespace Block

/-- Whether the last check of the pod found that it has succeeded. -/
def PodSucceeded (b : Block) : Prop :=
  ∃ a, b.podAnswers.getLast? = some a ∧ podFinding a = .succeeded

/-- Whether the last check of the node found that it is ready. -/
def EndsReady (b : Block) : Prop := ∃ a, b.nodeAnswers.getLast? = some a ∧ SaysReady a

/-- The pod is looked at exactly when it was created with a name, and the node exactly when the pod
has succeeded. -/
structure Proper (budget : Nat) (b : Block) : Prop where
  pod_unasked : createdPod? b.created = none → b.podAnswers = []
  pod_repeated : createdPod? b.created ≠ none →
    Repeated (fun a => podFinding a ≠ .undecided) budget b.podAnswers
  node_unasked : ¬ b.PodSucceeded → b.nodeAnswers = []
  node_repeated : b.PodSucceeded → Repeated SaysReady budget b.nodeAnswers

end Block

variable {σ : Type} {client : (c : Maintenance.Call) → σ → c.Answer × σ} {pause : Nat → σ → σ}
variable {policy : Polling.Policy} {image : Maintenance.Image} {threshold : String}
variable {node : ControlPlaneNode} {s s' : σ} {b : Block} {r : Except Error Unit}

/-- A block is about the node that is renewed. -/
theorem NodeRun.node_eq (h : NodeRun client pause policy image threshold node s b r s') :
    b.node = node := by
  cases h <;> rfl

/-- However the renewal of a node goes, its exchanges are a proper block. -/
theorem NodeRun.proper (h : NodeRun client pause policy image threshold node s b r s') :
    b.Proper policy.budget := by
  cases h with
  | uncreated hcreated he =>
    refine ⟨fun _ => rfl, fun hsome => absurd hcreated hsome, fun _ => rfl, ?_⟩
    rintro ⟨a, ha, -⟩
    exact absurd ha (by simp)
  | unsuccessful hs₁ hcreated hpod he =>
    refine ⟨fun hnone => ?_, fun _ => Repeated.of_isLast hpod, fun _ => rfl, ?_⟩
    · exact absurd (hcreated.symm.trans hnone) (by simp)
    · rintro ⟨a, ha, hsucceeded⟩
      rw [getLast?_range_map, Option.some.injEq] at ha
      rw [ha, hsucceeded] at he
      exact absurd he (by simp [podResult])
  | checked hs₁ hcreated hpod hsucceeded hs₂ hnode =>
    refine ⟨fun hnone => ?_, fun _ => Repeated.of_isLast hpod, fun hunsuccessful => ?_,
      fun _ => Repeated.of_isLast hnode⟩
    · exact absurd (hcreated.symm.trans hnone) (by simp)
    · exact absurd ⟨_, getLast?_range_map _ _, hsucceeded⟩ hunsuccessful

/-- It succeeds exactly when the block ends with a ready node. -/
theorem NodeRun.ok_iff (h : NodeRun client pause policy image threshold node s b r s') :
    r = .ok () ↔ b.EndsReady := by
  cases h with
  | uncreated hcreated he => simp [Block.EndsReady]
  | unsuccessful hs₁ hcreated hpod he => simp [Block.EndsReady]
  | checked hs₁ hcreated hpod hsucceeded hs₂ hnode =>
    simp only [Block.EndsReady, getLast?_range_map, Option.some.injEq, exists_eq_left']
    constructor
    · intro hok
      by_contra hunready
      rw [nodeResult_unready _ _ hunready] at hok
      exact absurd hok (by simp)
    · exact nodeResult_ready _ _

/-! ## Blocks in order -/

/-- The blocks of a run over listed nodes. The nodes of the blocks are a prefix of them, every block
but the last ends with a ready node, and the run does not stop after a block that ends so as long as
there are nodes left. -/
structure OneByOne (budget : Nat) (nodes : List ControlPlaneNode) (blocks : List Block) : Prop where
  listing_order : blocks.map (·.node) <+: nodes
  proper : ∀ b ∈ blocks, b.Proper budget
  ready_before_next : ∀ b ∈ blocks.dropLast, b.EndsReady
  continues : (∀ b ∈ blocks, b.EndsReady) → blocks.map (·.node) = nodes

namespace OneByOne

theorem nil (budget : Nat) : OneByOne budget [] [] :=
  ⟨List.nil_prefix, by simp, by simp, fun _ => rfl⟩

/-- A block that does not end with a ready node is the last one. -/
theorem halt {budget : Nat} (rest : List ControlPlaneNode) (hproper : b.Proper budget)
    (hready : ¬ b.EndsReady) : OneByOne budget (b.node :: rest) [b] := by
  refine ⟨by simp, by simpa using hproper, by simp, ?_⟩
  intro hall
  exact absurd (hall b List.mem_cons_self) hready

/-- A block that ends with a ready node comes before those of the other nodes. -/
theorem cons {budget : Nat} {rest : List ControlPlaneNode} {blocks : List Block}
    (hproper : b.Proper budget) (hready : b.EndsReady) (h : OneByOne budget rest blocks) :
    OneByOne budget (b.node :: rest) (b :: blocks) := by
  refine ⟨?_, ?_, ?_, ?_⟩
  · rw [List.map_cons, List.cons_prefix_cons]
    exact ⟨rfl, h.listing_order⟩
  · intro x hx
    rcases List.mem_cons.mp hx with rfl | hmem
    · exact hproper
    · exact h.proper x hmem
  · intro x hx
    cases hblocks : blocks with
    | nil => simp [hblocks] at hx
    | cons b' more =>
      rw [hblocks, List.dropLast_cons_cons, ← hblocks] at hx
      rcases List.mem_cons.mp hx with rfl | hmem
      · exact hready
      · exact h.ready_before_next x hmem
  · intro hall
    rw [List.map_cons, h.continues fun x hx => hall x (List.mem_cons_of_mem _ hx)]

end OneByOne

/-- The renewal of listed nodes. The induction is on the nodes that are left: a block that ends with
a ready node comes before the blocks of the rest, and any other block is the last one. -/
theorem transcript_renewNodes (client : (c : Maintenance.Call) → σ → c.Answer × σ)
    (pause : Nat → σ → σ) (policy : Polling.Policy) (image : Maintenance.Image) (threshold : String)
    (nodes : List ControlPlaneNode) (s : σ) :
    ∃ blocks, OneByOne policy.budget nodes blocks ∧
      (renewNodes policy image threshold nodes).transcript client pause s =
        blocks.flatMap (Block.exchanges image threshold) := by
  induction nodes generalizing s with
  | nil => exact ⟨[], OneByOne.nil _, rfl⟩
  | cons node rest ih =>
    obtain ⟨b, r, s', hnode⟩ := exists_nodeRun client pause policy image threshold node s
    obtain ⟨hrun, htranscript⟩ := hnode.spec
    have hb := hnode.node_eq
    cases r with
    | error e =>
      have hready : ¬ b.EndsReady := fun h => by simpa using hnode.ok_iff.mpr h
      refine ⟨[b], hb ▸ OneByOne.halt rest hnode.proper hready, ?_⟩
      rw [renewNodes, Dialogue.transcript_andThen_error client pause _ hrun, htranscript]
      simp
    | ok u =>
      obtain ⟨blocks, hblocks, hrest⟩ := ih s'
      refine ⟨b :: blocks, hb ▸ OneByOne.cons hnode.proper (hnode.ok_iff.mp rfl) hblocks, ?_⟩
      rw [renewNodes, Dialogue.transcript_andThen_ok client pause _ hrun, htranscript,
        Dialogue.transcript_andThen_done, hrest, List.flatMap_cons]

/-! ## The pod of a block -/

def boundNode? (pod : Cluster.Pod) : Option String := pod.spec.bind (Json.getString? "nodeName")

def containerArguments (pod : Cluster.Pod) : List (List Json) :=
  ((pod.spec.bind (Json.get? "containers")).getD .null).items.map fun container =>
    ((container.get? "args").getD .null).items

theorem boundNode?_pod (node : ControlPlaneNode) (threshold : String) (image : Maintenance.Image) :
    boundNode? (Maintenance.pod node threshold image) = some node.name := rfl

theorem containerArguments_pod (node : ControlPlaneNode) (threshold : String)
    (image : Maintenance.Image) :
    containerArguments (Maintenance.pod node threshold image) =
      [[.string "--expiration-threshold", .string threshold]] := rfl

/-- For every client, policy, image and threshold, an in-place renewal lists the nodes once and then
asks about them one by one, in the order of the listing. Each pod is bound to the node of its block,
and the last argument of its one container is the threshold. -/
theorem renew_asks_one_by_one (client : (c : Maintenance.Call) → σ → c.Answer × σ)
    (pause : Nat → σ → σ) (policy : Polling.Policy) (image : Maintenance.Image) (threshold : String)
    (s : σ) :
    ∃ blocks : List Block,
      (renew policy image threshold).transcript client pause s =
        ⟨.listNodes, (client .listNodes s).1⟩ :: blocks.flatMap (Block.exchanges image threshold) ∧
      OneByOne (max 1 policy.maxAttempts) (listed (client .listNodes s).1) blocks ∧
      ∀ b ∈ blocks, boundNode? (Maintenance.pod b.node threshold image) = some b.node.name ∧
        ∃ first, containerArguments (Maintenance.pod b.node threshold image) =
          [first ++ [.string threshold]] := by
  obtain ⟨blocks, hblocks, htranscript⟩ := transcript_renewNodes client pause policy image threshold
    (listed (client .listNodes s).1) (client .listNodes s).2
  refine ⟨blocks, ?_, hblocks, fun b _ => ⟨boundNode?_pod .., ?_⟩⟩
  · rw [transcript_renew, htranscript]
  · exact ⟨[.string "--expiration-threshold"], containerArguments_pod ..⟩

end CertRenewal.Renewal.InPlace
