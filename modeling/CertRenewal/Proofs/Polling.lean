import CertRenewal.Polling
import CertRenewal.Proofs.Dialogue

/-!
# Polling makes checks up to the first decisive one

`poll_spec` describes polling by the findings of its checks, where the client may answer each check
as it likes: exactly one check `IsLast`, the result is the `verdict` on its finding, and the
exchanges are those of the checks up to it. `run_poll_ofQuestion` and `transcript_poll_ofQuestion`
say the same of checks that ask one question each.
-/

namespace CertRenewal.Polling

variable {Call : Type} {Answer : Call → Type} {α σ : Type}

/-! ## Findings -/

/-- Whether no other check has to follow a finding. -/
def Check.decided : Check α → Bool
  | .ready _ | .hopeless => true
  | .notReady | .failed => false

/-- The result of polling when a finding is that of the last check, and `made` checks were made
before it. -/
def Check.verdict (made : Nat) : Check α → Except Error α
  | .ready value => .ok value
  | .hopeless => .error (.aborted (made + 1))
  | .notReady | .failed => .error (.exhausted (made + 1))

/-- The check of number `n`, counted from zero, is the last one: the budget covers it, no check
before it is decisive, and it is decisive itself or uses the budget up. -/
structure IsLast (decisive : Nat → Prop) (budget n : Nat) : Prop where
  within : n < budget
  undecided : ∀ i < n, ¬ decisive i
  stops : decisive n ∨ n + 1 = budget

namespace IsLast

variable {decisive decisive' : Nat → Prop} {budget m n : Nat}

/-- A check that is made before the last one leaves part of the budget, and is not decisive. -/
theorem not_lt (hm : IsLast decisive budget m) (hn : IsLast decisive budget n) : ¬ m < n := by
  intro hlt
  have hwithin := hn.within
  rcases hm.stops with hdecisive | hspent
  · exact hn.undecided m hlt hdecisive
  · omega

/-- There is one last check. -/
theorem unique (hm : IsLast decisive budget m) (hn : IsLast decisive budget n) : m = n := by
  have h1 := hm.not_lt hn
  have h2 := hn.not_lt hm
  omega

theorem congr (h : ∀ i, decisive i ↔ decisive' i) (hn : IsLast decisive budget n) :
    IsLast decisive' budget n := by
  have heq : decisive = decisive' := funext fun i => propext (h i)
  exact heq ▸ hn

/-- The first check is the last one when it is decisive. -/
theorem zero_of_decisive (hbudget : 0 < budget) (h : decisive 0) : IsLast decisive budget 0 :=
  ⟨hbudget, fun _ hi => absurd hi (Nat.not_lt_zero _), Or.inl h⟩

/-- After a check that is not decisive, the others are counted by themselves. -/
theorem succ (h0 : ¬ decisive 0) (h : IsLast (fun i => decisive (i + 1)) budget n) :
    IsLast decisive (budget + 1) (n + 1) := by
  refine ⟨Nat.succ_lt_succ h.within, ?_, ?_⟩
  · intro i hi
    cases i with
    | zero => exact h0
    | succ j => exact h.undecided j (by omega)
  · rcases h.stops with hdecisive | hspent
    · exact Or.inl hdecisive
    · exact Or.inr (by omega)

theorem pred (h : IsLast decisive (budget + 1) (n + 1)) :
    IsLast (fun i => decisive (i + 1)) budget n := by
  refine ⟨Nat.lt_of_succ_lt_succ h.within, fun i hi => h.undecided (i + 1) (by omega), ?_⟩
  rcases h.stops with hdecisive | hspent
  · exact Or.inl hdecisive
  · exact Or.inr (by omega)

/-- The first decisive check is the last one. -/
theorem of_decisive (hn : n < budget) (hfirst : ∀ i < n, ¬ decisive i) (h : decisive n) :
    IsLast decisive budget n :=
  ⟨hn, hfirst, Or.inl h⟩

/-- Without a decisive check the budget is used up. -/
theorem of_spent (hbudget : 0 < budget) (h : ∀ i < budget, ¬ decisive i) :
    IsLast decisive budget (budget - 1) :=
  ⟨by omega, fun i hi => h i (by omega), Or.inr (by omega)⟩

/-- When the last check is not decisive, no check is, and the budget is used up. -/
theorem spent (h : IsLast decisive budget n) (hn : ¬ decisive n) :
    n + 1 = budget ∧ ∀ i < budget, ¬ decisive i := by
  have hspent : n + 1 = budget := h.stops.resolve_left hn
  refine ⟨hspent, fun i hi => ?_⟩
  rcases Nat.lt_or_eq_of_le (Nat.le_of_lt_succ (hspent ▸ hi)) with hlt | rfl
  · exact h.undecided i hlt
  · exact hn

/-- A budget that allows a check has a last one. -/
theorem exists_of_pos (hbudget : 0 < budget) : ∃ n, IsLast decisive budget n := by
  obtain ⟨further, rfl⟩ : ∃ further, budget = further + 1 := ⟨budget - 1, by omega⟩
  clear hbudget
  induction further generalizing decisive with
  | zero => exact ⟨0, Nat.one_pos, fun _ hi => absurd hi (Nat.not_lt_zero _), Or.inr rfl⟩
  | succ further ih =>
    by_cases h0 : decisive 0
    · exact ⟨0, zero_of_decisive (Nat.succ_pos _) h0⟩
    · obtain ⟨n, hn⟩ : ∃ n, IsLast (fun i => decisive (i + 1)) (further + 1) n := ih
      exact ⟨n + 1, succ h0 hn⟩

end IsLast

/-- The first check is made under every policy. -/
theorem Policy.budget_pos (policy : Policy) : 0 < policy.budget :=
  Nat.lt_of_lt_of_le Nat.one_pos (Nat.le_max_left 1 policy.maxAttempts)

/-- A policy that allows no check polls like one that allows a single check, so that it makes no
difference whether the number was raised beforehand. -/
theorem poll_ofNumbers (maxAttempts interval : Nat) (check : Dialogue Call Answer (Check α)) :
    poll (.ofNumbers maxAttempts interval) check = poll ⟨maxAttempts, interval⟩ check := by
  have hbudget : (Policy.ofNumbers maxAttempts interval).budget =
      (Policy.mk maxAttempts interval).budget :=
    Nat.max_eq_right (Nat.le_max_left 1 maxAttempts)
  rw [poll, poll, hbudget]
  rfl

/-! ## Runs -/

variable (client : (c : Call) → σ → Answer c × σ) (pause : Nat → σ → σ)

def checkState (interval : Nat) (check : Dialogue Call Answer (Check α)) (s : σ) (n : Nat) : σ :=
  (fun s => pause interval (check.run client pause s).2)^[n] s

def finding (interval : Nat) (check : Dialogue Call Answer (Check α)) (s : σ) (n : Nat) : Check α :=
  (check.run client pause (checkState client pause interval check s n)).1

variable {client pause} {interval : Nat} {check : Dialogue Call Answer (Check α)}

@[simp] theorem checkState_zero (s : σ) : checkState client pause interval check s 0 = s := rfl

@[simp] theorem finding_zero (s : σ) :
    finding client pause interval check s 0 = (check.run client pause s).1 := rfl

theorem checkState_succ (s : σ) (n : Nat) :
    checkState client pause interval check s (n + 1) =
      checkState client pause interval check (pause interval (check.run client pause s).2) n := by
  rw [checkState, Function.iterate_succ_apply, checkState]

theorem finding_succ (s : σ) (n : Nat) :
    finding client pause interval check s (n + 1) =
      finding client pause interval check (pause interval (check.run client pause s).2) n := by
  rw [finding, checkState_succ, finding]

/-- A decisive check ends polling, whatever is left of the budget. -/
theorem run_pollFrom_decided {s : σ} (h : (check.run client pause s).1.decided = true)
    (made further : Nat) :
    (pollFrom interval check made further).run client pause s =
        ((check.run client pause s).1.verdict made, (check.run client pause s).2) ∧
      (pollFrom interval check made further).transcript client pause s =
        check.transcript client pause s := by
  cases further <;> cases hc : (check.run client pause s).1 <;>
    simp_all [pollFrom, Check.decided, Check.verdict]

/-- So does the check that uses the budget up. -/
theorem run_pollFrom_zero (s : σ) (made : Nat) :
    (pollFrom interval check made 0).run client pause s =
        ((check.run client pause s).1.verdict made, (check.run client pause s).2) ∧
      (pollFrom interval check made 0).transcript client pause s =
        check.transcript client pause s := by
  cases hc : (check.run client pause s).1 <;> simp [pollFrom, Check.verdict, hc]

/-- After any other check there is a wait, and polling goes on. -/
theorem run_pollFrom_undecided (interval : Nat) {s : σ}
    (h : (check.run client pause s).1.decided = false) (made further : Nat) :
    (pollFrom interval check made (further + 1)).run client pause s =
        (pollFrom interval check (made + 1) further).run client pause
          (pause interval (check.run client pause s).2) ∧
      (pollFrom interval check made (further + 1)).transcript client pause s =
        check.transcript client pause s ++
          (pollFrom interval check (made + 1) further).transcript client pause
            (pause interval (check.run client pause s).2) := by
  cases hc : (check.run client pause s).1 <;> simp_all [pollFrom, Check.decided]

/-- Polling from the check of number `made` on. The induction is on the checks that are left, and
each undecided finding shifts the numbers of the others by one. -/
theorem pollFrom_spec {further n : Nat} (made : Nat) {s : σ}
    (h : IsLast (fun i => (finding client pause interval check s i).decided) (further + 1) n) :
    (pollFrom interval check made further).run client pause s =
        ((finding client pause interval check s n).verdict (made + n),
          (check.run client pause (checkState client pause interval check s n)).2) ∧
      (pollFrom interval check made further).transcript client pause s =
        (List.range (n + 1)).flatMap fun i =>
          check.transcript client pause (checkState client pause interval check s i) := by
  induction further generalizing made n s with
  | zero =>
    have hn : n = 0 := by have := h.within; omega
    subst hn
    simpa using run_pollFrom_zero s made
  | succ further ih =>
    by_cases hd : (check.run client pause s).1.decided = true
    · have hn : n = 0 := h.unique (IsLast.zero_of_decisive (Nat.succ_pos _) hd)
      subst hn
      simpa using run_pollFrom_decided hd made (further + 1)
    · cases n with
      | zero =>
        rcases h.stops with hdecided | hspent
        · exact absurd hdecided hd
        · omega
      | succ n =>
        obtain ⟨hrun, htranscript⟩ :=
          run_pollFrom_undecided interval (Bool.eq_false_iff.mpr hd) made further
        have hrest : IsLast (fun i => (finding client pause interval check
            (pause interval (check.run client pause s).2) i).decided) (further + 1) n := by
          simpa only [finding_succ] using h.pred
        obtain ⟨hrun', htranscript'⟩ := ih (made + 1) hrest
        constructor
        · rw [hrun, hrun', finding_succ, checkState_succ, Nat.add_assoc, Nat.add_comm 1 n]
        · rw [htranscript, htranscript', List.range_succ_eq_map (n := n + 1), List.flatMap_cons,
            List.flatMap_map]
          simp only [checkState_succ]
          rfl

/-- Polling under a policy makes the checks up to the last one. -/
theorem poll_spec {policy : Policy} {s : σ} {n : Nat}
    (h : IsLast (fun i => (finding client pause policy.interval check s i).decided)
      policy.budget n) :
    (poll policy check).run client pause s =
        ((finding client pause policy.interval check s n).verdict n,
          (check.run client pause (checkState client pause policy.interval check s n)).2) ∧
      (poll policy check).transcript client pause s =
        (List.range (n + 1)).flatMap fun i =>
          check.transcript client pause (checkState client pause policy.interval check s i) := by
  have hbudget : policy.budget - 1 + 1 = policy.budget := Nat.sub_add_cancel policy.budget_pos
  have hspec := pollFrom_spec 0 (hbudget.symm ▸ h)
  rwa [Nat.zero_add] at hspec

/-! ## Checks that ask one question -/

section Question

variable {c : Call} {found : Answer c → Check α} {policy : Policy} {s : σ} {n : Nat}

def ofQuestion (c : Call) (found : Answer c → Check α) : Dialogue Call Answer (Check α) :=
  .ask c fun answer => .done (found answer)

/-- Such a check finds what its answer says. -/
theorem run_poll_ofQuestion
    (h : IsLast (fun i => (found (Dialogue.answerAt client pause policy.interval c s i)).decided)
      policy.budget n) :
    (poll policy (ofQuestion c found)).run client pause s =
      ((found (Dialogue.answerAt client pause policy.interval c s n)).verdict n,
        Dialogue.stateAfter client pause policy.interval c s n) := by
  have hfound : IsLast (fun i => (finding client pause policy.interval (ofQuestion c found) s
      i).decided) policy.budget n := h
  exact (poll_spec hfound).1

/-- Nothing but the question is asked, once for each check. -/
theorem transcript_poll_ofQuestion
    (h : IsLast (fun i => (found (Dialogue.answerAt client pause policy.interval c s i)).decided)
      policy.budget n) :
    (poll policy (ofQuestion c found)).transcript client pause s =
      (List.range (n + 1)).map fun i =>
        ⟨c, Dialogue.answerAt client pause policy.interval c s i⟩ := by
  have hfound : IsLast (fun i => (finding client pause policy.interval (ofQuestion c found) s
      i).decided) policy.budget n := h
  rw [(poll_spec hfound).2, List.map_eq_flatMap]
  rfl

end Question

end CertRenewal.Polling
