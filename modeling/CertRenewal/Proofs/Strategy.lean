import CertRenewal.Proofs.Dialogue
import CertRenewal.Renewal.Strategy
import Mathlib.Data.List.Basic

/-!
# A renewal runs one strategy

A renewal talks to two clients, of which the one answers questions about maintenance pods and the
other questions about machines. Both may look at the same state, so that an answer of either may
depend on all that was asked of both. What is asked of one of them is picked from the exchanges of a
renewal by `maintenance?` and by `machines?`.

`renewInPlace_direct` and `renewRolling_direct` say that a strategy goes as if it had its own client
only, and `renew_runs_one_strategy` is the main statement.
-/

namespace CertRenewal.Renewal

/-! ## Two clients -/

/-- An exchange with the client that answers questions about maintenance pods. -/
def maintenance? : Exchange Call.Answer → Option (Exchange Maintenance.Call.Answer)
  | ⟨.maintenance call, answer⟩ => some ⟨call, answer⟩
  | ⟨.machines _, _⟩ => none

/-- An exchange with the client that answers questions about machines. -/
def machines? : Exchange Call.Answer → Option (Exchange Machines.Call.Answer)
  | ⟨.maintenance _, _⟩ => none
  | ⟨.machines call, answer⟩ => some ⟨call, answer⟩

/-- An exchange about maintenance pods as one of a renewal. -/
def ofMaintenance (x : Exchange Maintenance.Call.Answer) : Exchange Call.Answer :=
  ⟨.maintenance x.call, x.answer⟩

/-- An exchange about machines as one of a renewal. -/
def ofMachines (x : Exchange Machines.Call.Answer) : Exchange Call.Answer :=
  ⟨.machines x.call, x.answer⟩

/-- Exchanges about maintenance pods are all with the one client. -/
theorem picked_ofMaintenance (xs : List (Exchange Maintenance.Call.Answer)) :
    (xs.map ofMaintenance).filterMap maintenance? = xs ∧
      (xs.map ofMaintenance).filterMap machines? = [] := by
  rw [List.filterMap_map, List.filterMap_map, List.filterMap_eq_nil_iff]
  exact ⟨List.filterMap_some, fun x _ => rfl⟩

/-- Exchanges about machines are all with the other client. -/
theorem picked_ofMachines (xs : List (Exchange Machines.Call.Answer)) :
    (xs.map ofMachines).filterMap machines? = xs ∧
      (xs.map ofMachines).filterMap maintenance? = [] := by
  rw [List.filterMap_map, List.filterMap_map, List.filterMap_eq_nil_iff]
  exact ⟨List.filterMap_some, fun x _ => rfl⟩

/-- What a renewal says of the result of an in-place renewal. -/
def inPlaceOutcome : Except InPlace.Error (List String) → Except Error Outcome
  | .ok nodes => .ok (.inPlace nodes)
  | .error cause => .error (.inPlace cause)

/-- What a renewal says of the result of a rolling update. -/
def rollingOutcome : Except Rolling.Error Rolling.Summary → Except Error Outcome
  | .ok summary => .ok (.rollingUpdate summary)
  | .error cause => .error (.rollingUpdate cause)

/-- The one error of the threshold is that it is no duration. -/
theorem validateThreshold_eq_error_iff {threshold : String} {e : Error} :
    validateThreshold threshold = .error e ↔
      ∃ cause, Duration.parse threshold.toList = .error cause ∧ e = .threshold threshold cause := by
  rw [validateThreshold]
  cases Duration.parse threshold.toList with
  | error cause => simp [eq_comm]
  | ok duration => simp

section

variable {σ : Type} (maintenance : (c : Maintenance.Call) → σ → c.Answer × σ)
variable (machines : (c : Machines.Call) → σ → c.Answer × σ) (pause : Nat → σ → σ)

def both : (c : Call) → σ → c.Answer × σ
  | .maintenance call => maintenance call
  | .machines call => machines call

/-! ## The strategies -/

variable (policy : Polling.Policy) (image : Maintenance.Image) (threshold : String)

theorem renewInPlace_eq :
    renewInPlace policy image threshold =
      ((InPlace.renew policy image threshold).interpret fun c => .call (.maintenance c)).bind
        fun result => .done (inPlaceOutcome result) := by
  refine congrArg (Dialogue.bind _) (funext fun result => ?_)
  cases result <;> rfl

/-- A renewal by a rolling update is the update, with its result as that of the renewal. -/
theorem renewRolling_eq :
    renewRolling =
      (Rolling.renew.interpret fun c => .call (.machines c)).bind
        fun result => .done (rollingOutcome result) := by
  refine congrArg (Dialogue.bind _) (funext fun result => ?_)
  cases result <;> rfl

/-- An in-place renewal goes as it does with its own client only. -/
theorem renewInPlace_direct (s : σ) :
    let direct := (InPlace.renew policy image threshold).run maintenance pause s
    (renewInPlace policy image threshold).run (both maintenance machines) pause s =
      (inPlaceOutcome direct.1, direct.2) ∧
    (renewInPlace policy image threshold).transcript (both maintenance machines) pause s =
      ((InPlace.renew policy image threshold).transcript maintenance pause s).map
        ofMaintenance := by
  refine ⟨?_, ?_⟩
  · rw [renewInPlace_eq, CertRenewal.Dialogue.run_bind, CertRenewal.Dialogue.run_done]
    exact congrArg (Prod.map inPlaceOutcome id) (CertRenewal.Dialogue.run_interpret pause _ _ _ s)
  · rw [renewInPlace_eq, CertRenewal.Dialogue.transcript_bind,
      CertRenewal.Dialogue.transcript_done, List.append_nil]
    exact CertRenewal.Dialogue.transcript_interpret_call pause _ _ _ s

/-- A rolling update goes as it does with its own client only. -/
theorem renewRolling_direct (s : σ) :
    let direct := Rolling.renew.run machines pause s
    renewRolling.run (both maintenance machines) pause s = (rollingOutcome direct.1, direct.2) ∧
    renewRolling.transcript (both maintenance machines) pause s =
      (Rolling.renew.transcript machines pause s).map ofMachines := by
  refine ⟨?_, ?_⟩
  · rw [renewRolling_eq, CertRenewal.Dialogue.run_bind, CertRenewal.Dialogue.run_done]
    exact congrArg (Prod.map rollingOutcome id) (CertRenewal.Dialogue.run_interpret pause _ _ _ s)
  · rw [renewRolling_eq, CertRenewal.Dialogue.transcript_bind,
      CertRenewal.Dialogue.transcript_done, List.append_nil]
    exact CertRenewal.Dialogue.transcript_interpret_call pause _ _ _ s

/-- For every mode, and whatever the two clients answer: a threshold that is no duration ends a
renewal with an error that says so, and neither client is asked anything. Otherwise the client of
the other mode is asked nothing, and the client of the mode is asked just what it is asked by the
strategy of the mode alone, with the same policy, image and threshold. The result is that of the
strategy, as the outcome of the mode or as an error of the mode, and the state that is left is the
same. -/
theorem renew_runs_one_strategy (mode : Mode) (s : σ) :
    let client := both maintenance machines
    let result := (renew policy image mode threshold).run client pause s
    let exchanges := (renew policy image mode threshold).transcript client pause s
    match validateThreshold threshold, mode with
    | .error e, _ =>
      (∃ cause, Duration.parse threshold.toList = .error cause ∧ e = .threshold threshold cause) ∧
        result = (.error e, s) ∧ exchanges = []
    | .ok _, .inPlace =>
      let strategy := InPlace.renew policy image threshold
      let direct := strategy.run maintenance pause s
      result = (inPlaceOutcome direct.1, direct.2) ∧
        exchanges.filterMap maintenance? = strategy.transcript maintenance pause s ∧
        exchanges.filterMap machines? = []
    | .ok _, .rollingUpdate =>
      let strategy := Rolling.renew
      let direct := strategy.run machines pause s
      result = (rollingOutcome direct.1, direct.2) ∧
        exchanges.filterMap machines? = strategy.transcript machines pause s ∧
        exchanges.filterMap maintenance? = [] := by
  intro client result exchanges
  cases hvalid : validateThreshold threshold with
  | error e =>
    have hrenew : renew policy image mode threshold = .done (.error e) := by
      simp only [renew, hvalid]
    refine ⟨validateThreshold_eq_error_iff.mp hvalid, ?_, ?_⟩
    · show (renew policy image mode threshold).run client pause s = _
      rw [hrenew, CertRenewal.Dialogue.run_done]
    · show (renew policy image mode threshold).transcript client pause s = _
      rw [hrenew, CertRenewal.Dialogue.transcript_done]
  | ok u =>
    cases mode with
    | inPlace =>
      have hrenew : renew policy image .inPlace threshold =
          renewInPlace policy image threshold := by
        simp only [renew, hvalid]
      obtain ⟨hrun, hexchanges⟩ :=
        renewInPlace_direct maintenance machines pause policy image threshold s
      rw [← hrenew] at hrun hexchanges
      refine ⟨hrun, ?_⟩
      show List.filterMap _
          ((renew policy image .inPlace threshold).transcript client pause s) = _ ∧
        List.filterMap _
          ((renew policy image .inPlace threshold).transcript client pause s) = _
      rw [hexchanges]
      exact picked_ofMaintenance _
    | rollingUpdate =>
      have hrenew : renew policy image .rollingUpdate threshold = renewRolling := by
        simp only [renew, hvalid]
      obtain ⟨hrun, hexchanges⟩ := renewRolling_direct maintenance machines pause s
      rw [← hrenew] at hrun hexchanges
      refine ⟨hrun, ?_⟩
      show List.filterMap _
          ((renew policy image .rollingUpdate threshold).transcript client pause s) = _ ∧
        List.filterMap _
          ((renew policy image .rollingUpdate threshold).transcript client pause s) = _
      rw [hexchanges]
      exact picked_ofMachines _

end

end CertRenewal.Renewal
