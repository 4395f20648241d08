import CertRenewal.Proofs.Polling

/-!
# When polling checks, and when it waits

The timeline of a run is its transcript with the waits in it. `timeline_pollFrom` gives that of
polling: the checks up to the last one, with a wait between each two of them and none outside.

`poll_eq_repeated` says that polling is the repetition of an action that may fail, with a list of delays
that is one shorter than the budget, an action that counts how often it has run, and errors after
which there is no other run. `poll_outcomes` is the main statement, for every policy and every
sequence of findings.
-/

namespace CertRenewal

namespace Dialogue

variable {Call : Type} {Answer : Call → Type} {α β σ : Type}

/-! ## Timelines -/

/-- What takes place in a run: a question is answered, or time passes. -/
inductive Event (Answer : Call → Type) where
  | asked (exchange : Exchange Answer)
  | waited (milliseconds : Nat)

variable (client : (c : Call) → σ → Answer c × σ) (pause : Nat → σ → σ)

def timeline : Dialogue Call Answer α → σ → List (Event Answer)
  | done _, _ => []
  | ask c next, s =>
    .asked ⟨c, (client c s).1⟩ :: (next (client c s).1).timeline (client c s).2
  | wait milliseconds next, s => .waited milliseconds :: next.timeline (pause milliseconds s)

@[simp] theorem timeline_done (v : α) (s : σ) :
    (done v : Dialogue Call Answer α).timeline client pause s = [] := rfl

@[simp] theorem timeline_ask (c : Call) (next : Answer c → Dialogue Call Answer α) (s : σ) :
    (ask c next).timeline client pause s =
      .asked ⟨c, (client c s).1⟩ :: (next (client c s).1).timeline client pause (client c s).2 :=
  rfl

@[simp] theorem timeline_wait (ms : Nat) (next : Dialogue Call Answer α) (s : σ) :
    (wait ms next).timeline client pause s =
      .waited ms :: next.timeline client pause (pause ms s) :=
  rfl

@[simp] theorem timeline_bind (d : Dialogue Call Answer α) (f : α → Dialogue Call Answer β)
    (s : σ) :
    (d.bind f).timeline client pause s =
      d.timeline client pause s ++
        (f (d.run client pause s).1).timeline client pause (d.run client pause s).2 := by
  induction d generalizing s with
  | done v => rfl
  | ask c next ih => rw [bind, timeline_ask, ih, timeline_ask, run_ask, List.cons_append]
  | wait ms next ih => rw [bind, timeline_wait, ih, timeline_wait, run_wait, List.cons_append]

end Dialogue

namespace Polling

open CertRenewal.Dialogue (Event)

variable {Call : Type} {Answer : Call → Type} {α ε σ τ : Type}

/-! ## Polling is a repetition -/

/-- Runs an action, and once more after each delay, as long as a delay is left and the action fails
with an error after which to go on. The action passes on a state from run to run. -/
def retry (goesOn : ε → Bool) (action : τ → Dialogue Call Answer (τ × Except ε α)) :
    List Nat → τ → Dialogue Call Answer (τ × Except ε α)
  | [], t => action t
  | delay :: delays, t => (action t).bind fun
    | (t, .ok value) => .done (t, .ok value)
    | (t, .error e) =>
      if goesOn e then .wait delay (retry goesOn action delays t) else .done (t, .error e)

/-- Why a check is not the end of polling. -/
inductive Miss where
  | notReady
  | hopeless
  deriving DecidableEq, Repr

/-- What a check amounts to: a failed one is as good as one that finds nothing. -/
def Check.result : Check α → Except Miss α
  | .ready value => .ok value
  | .notReady | .failed => .error .notReady
  | .hopeless => .error .hopeless

def counted (check : Dialogue Call Answer (Check α)) (made : Nat) :
    Dialogue Call Answer (Nat × Except Miss α) :=
  check.bind fun found => .done (made + 1, found.result)

def Miss.error (attempts : Nat) : Miss → Error
  | .notReady => .exhausted attempts
  | .hopeless => .aborted attempts

/-- The checks of a policy as a repetition, with a delay before every check but the first. -/
def repeated (policy : Policy) (check : Dialogue Call Answer (Check α)) :
    Dialogue Call Answer (Except Error α) :=
  (retry (· == .notReady) (counted check)
      (List.replicate (policy.maxAttempts - 1) policy.interval) 0).bind fun (attempts, result) =>
    .done (result.mapError (Miss.error attempts))

/-- Polling goes on as the repetition does, after any number of checks. -/
theorem pollFrom_eq_retry (interval : Nat) (check : Dialogue Call Answer (Check α))
    (made further : Nat) :
    pollFrom interval check made further =
      (retry (· == .notReady) (counted check) (List.replicate further interval) made).bind
        fun (attempts, result) => .done (result.mapError (Miss.error attempts)) := by
  induction further generalizing made with
  | zero =>
    rw [pollFrom, List.replicate_zero, retry, counted, Dialogue.bind_assoc]
    refine congrArg check.bind (funext fun found => ?_)
    cases found <;> rfl
  | succ further ih =>
    rw [pollFrom, List.replicate_succ, retry, counted, Dialogue.bind_assoc, Dialogue.bind_assoc]
    refine congrArg check.bind (funext fun found => ?_)
    cases found with
    | ready value => rfl
    | hopeless => rfl
    | notReady => exact congrArg (Dialogue.wait interval) (ih (made + 1))
    | failed => exact congrArg (Dialogue.wait interval) (ih (made + 1))

/-- Polling is a repetition. -/
theorem poll_eq_repeated (policy : Policy) (check : Dialogue Call Answer (Check α)) :
    poll policy check = repeated policy check := by
  have hbudget : policy.budget - 1 = policy.maxAttempts - 1 := by
    rw [Policy.budget]
    omega
  rw [poll, hbudget, pollFrom_eq_retry, repeated]

/-! ## The timeline of polling -/

section

variable {client : (c : Call) → σ → Answer c × σ} {pause : Nat → σ → σ}
variable {interval : Nat} {check : Dialogue Call Answer (Check α)}

theorem timeline_pollFrom_decided {s : σ} (h : (check.run client pause s).1.decided = true)
    (made further : Nat) :
    (pollFrom interval check made further).timeline client pause s =
      check.timeline client pause s := by
  cases further <;> cases hc : (check.run client pause s).1 <;>
    simp_all [pollFrom, Check.decided]

theorem timeline_pollFrom_zero (s : σ) (made : Nat) :
    (pollFrom interval check made 0).timeline client pause s = check.timeline client pause s := by
  cases hc : (check.run client pause s).1 <;> simp [pollFrom, hc]

/-- One wait follows a check that is neither decisive nor the last of the budget. -/
theorem timeline_pollFrom_undecided {s : σ} (h : (check.run client pause s).1.decided = false)
    (made further : Nat) :
    (pollFrom interval check made (further + 1)).timeline client pause s =
      check.timeline client pause s ++ .waited interval ::
        (pollFrom interval check (made + 1) further).timeline client pause
          (pause interval (check.run client pause s).2) := by
  cases hc : (check.run client pause s).1 <;> simp_all [pollFrom, Check.decided]

/-- A wait follows each check but the last. The induction is that of `pollFrom_spec`. -/
theorem timeline_pollFrom {further n : Nat} (made : Nat) {s : σ}
    (h : IsLast (fun i => (finding client pause interval check s i).decided) (further + 1) n) :
    (pollFrom interval check made further).timeline client pause s =
      ((List.range n).flatMap fun i =>
        check.timeline client pause (checkState client pause interval check s i) ++
          [.waited interval]) ++
      check.timeline client pause (checkState client pause interval check s n) := by
  induction further generalizing made n s with
  | zero =>
    have hn : n = 0 := by have := h.within; omega
    subst hn
    exact timeline_pollFrom_zero s made
  | succ further ih =>
    by_cases hd : (check.run client pause s).1.decided = true
    · have hn : n = 0 := h.unique (IsLast.zero_of_decisive (Nat.succ_pos _) hd)
      subst hn
      exact timeline_pollFrom_decided hd made (further + 1)
    · cases n with
      | zero =>
        rcases h.stops with hdecided | hspent
        · exact absurd hdecided hd
        · omega
      | succ n =>
        have hrest : IsLast (fun i => (finding client pause interval check
            (pause interval (check.run client pause s).2) i).decided) (further + 1) n := by
          simpa only [finding_succ] using h.pred
        rw [timeline_pollFrom_undecided (Bool.eq_false_iff.mpr hd), ih (made + 1) hrest,
          List.range_succ_eq_map, List.flatMap_cons, List.flatMap_map]
        simp only [checkState_succ, checkState_zero, List.append_assoc, List.singleton_append]
        rfl

end

/-! ## Polling a sequence of findings -/

/-- The client whose answers are the members of a sequence, one after the other. Its state is the
number of answers that it has given. -/
def recite (outcomes : Nat → Check α) (_ : Unit) (given : Nat) : Check α × Nat :=
  (outcomes given, given + 1)

def nextOutcome : Dialogue Unit (fun _ => Check α) (Check α) := .call ()

theorem checkState_recite (outcomes : Nat → Check α) (interval given n : Nat) :
    checkState (recite outcomes) (fun _ s => s) interval nextOutcome given n = given + n := by
  induction n generalizing given with
  | zero => rfl
  | succ n ih =>
    rw [checkState_succ]
    show checkState (recite outcomes) _ interval nextOutcome (given + 1) n = _
    rw [ih, Nat.add_assoc, Nat.add_comm 1 n]

/-- The check of number `n` finds the `n`-th member of the sequence. -/
theorem finding_recite (outcomes : Nat → Check α) (interval n : Nat) :
    finding (recite outcomes) (fun _ s => s) interval nextOutcome 0 n = outcomes n := by
  rw [finding, checkState_recite, Nat.zero_add]
  rfl

/-- A separator between each two members of a sequence stands behind each of them but the last. -/
theorem intersperse_map_range {β : Type} (separator : β) (f : Nat → β) (n : Nat) :
    ((List.range (n + 1)).map f).intersperse separator =
      ((List.range n).flatMap fun i => [f i, separator]) ++ [f n] := by
  induction n generalizing f with
  | zero => rfl
  | succ n ih =>
    have hcons : ((List.range (n + 2)).map f).intersperse separator =
        f 0 :: separator :: ((List.range (n + 1)).map (f ∘ Nat.succ)).intersperse separator := by
      rw [List.range_succ_eq_map (n := n + 1), List.map_cons, List.map_map,
        List.range_succ_eq_map (n := n)]
      rfl
    rw [hcons, ih, List.range_succ_eq_map (n := n), List.flatMap_cons, List.flatMap_map]
    rfl

/-- Where the last check is not decisive, the budget is used up. -/
theorem IsLast.verdict_eq {outcomes : Nat → Check α} {budget n : Nat}
    (h : IsLast (fun i => (outcomes i).decided = true) budget n) :
    (outcomes n).verdict n =
      match outcomes n with
      | .ready value => .ok value
      | .hopeless => .error (.aborted (n + 1))
      | .notReady | .failed => .error (.exhausted budget) := by
  have hspent : (outcomes n).decided = false → n + 1 = budget := fun hn =>
    (h.spent (Bool.eq_false_iff.mp hn)).1
  cases hfound : outcomes n with
  | ready value => rfl
  | hopeless => rfl
  | notReady => rw [Check.verdict, hspent (by rw [hfound]; rfl)]
  | failed => rw [Check.verdict, hspent (by rw [hfound]; rfl)]

/-- For every policy and every sequence of findings: polling, which is a repetition with
`maxAttempts - 1` delays, makes the checks up to the first decisive one, or as many as the budget
allows when none of these is decisive. It ends with what the last check finds, and tells how many
checks were made when that is not a value. The interval passes between each two checks, and at no
other time. Checks are numbered from zero here, so that `n + 1` are made. -/
theorem poll_outcomes (policy : Policy) (outcomes : Nat → Check α) :
    let budget := max 1 policy.maxAttempts
    let polling := poll policy nextOutcome
    polling = repeated policy nextOutcome ∧
    ∃ n < budget, (∀ i < n, (outcomes i).decided = false) ∧
      ((outcomes n).decided = true ∨ n + 1 = budget) ∧
      polling.run (recite outcomes) (fun _ given => given) 0 =
        (match outcomes n with
          | .ready value => .ok value
          | .hopeless => .error (.aborted (n + 1))
          | .notReady | .failed => .error (.exhausted budget), n + 1) ∧
      polling.timeline (recite outcomes) (fun _ given => given) 0 =
        ((List.range (n + 1)).map fun i => .asked ⟨(), outcomes i⟩).intersperse
          (.waited policy.interval) := by
  intro budget polling
  refine ⟨poll_eq_repeated policy nextOutcome, ?_⟩
  obtain ⟨n, hn⟩ : ∃ n, IsLast (fun i => (outcomes i).decided = true) policy.budget n :=
    IsLast.exists_of_pos policy.budget_pos
  have hlast : IsLast (fun i => (finding (recite outcomes) (fun _ given => given) policy.interval
      nextOutcome 0 i).decided) policy.budget n :=
    hn.congr fun i => by rw [finding_recite]
  refine ⟨n, hn.within, fun i hi => Bool.eq_false_iff.mpr (hn.undecided i hi), hn.stops, ?_, ?_⟩
  · rw [(poll_spec hlast).1, finding_recite, checkState_recite, Nat.zero_add]
    exact Prod.ext hn.verdict_eq rfl
  · have hbudget : policy.budget - 1 + 1 = policy.budget := Nat.sub_add_cancel policy.budget_pos
    rw [intersperse_map_range]
    show (pollFrom policy.interval nextOutcome 0 (policy.budget - 1)).timeline _ _ _ = _
    rw [timeline_pollFrom 0 (hbudget.symm ▸ hlast)]
    simp only [checkState_recite, Nat.zero_add]
    rfl

end Polling

end CertRenewal
