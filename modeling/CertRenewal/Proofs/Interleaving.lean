import CertRenewal.Proofs.Dialogue
import Mathlib.Logic.Function.Basic

/-!
# Dialogues that share a client

Several dialogues have one client, and one of them at a time makes its next step. A step asks one
question and takes its answer, or waits, so that what the client does for a question is not
interrupted. A schedule says whose turn it is; the theorems about an interleaving are about every
schedule.

The log keeps the exchanges of all dialogues in the order in which they were made.
-/

namespace CertRenewal

/-- Dialogues that share a client, the state of the client, and the exchanges made so far with the
dialogues that made them. -/
structure Interleaving (ι : Type) {Call : Type} (Answer : Call → Type) (α σ : Type) where
  dialogues : ι → Dialogue Call Answer α
  state : σ
  log : List (ι × Exchange Answer)

namespace Interleaving

variable {ι Call : Type} [DecidableEq ι] {Answer : Call → Type} {α σ : Type}
variable (client : (c : Call) → σ → Answer c × σ) (pause : Nat → σ → σ)

def start (dialogues : ι → Dialogue Call Answer α) (s : σ) : Interleaving ι Answer α σ :=
  ⟨dialogues, s, []⟩

/-- One dialogue makes its next step. One that has ended makes none. -/
def step (c : Interleaving ι Answer α σ) (i : ι) : Interleaving ι Answer α σ :=
  match c.dialogues i with
  | .done _ => c
  | .ask q next =>
    let (answer, s) := client q c.state
    ⟨Function.update c.dialogues i (next answer), s, c.log ++ [(i, ⟨q, answer⟩)]⟩
  | .wait ms next => ⟨Function.update c.dialogues i next, pause ms c.state, c.log⟩

def run (schedule : List ι) (c : Interleaving ι Answer α σ) : Interleaving ι Answer α σ :=
  schedule.foldl (step client pause) c

variable {client pause} {c : Interleaving ι Answer α σ} {i : ι}

theorem step_done {v : α} (h : c.dialogues i = .done v) : step client pause c i = c := by
  rw [step, h]

/-- A dialogue that asks makes one exchange with the shared client. -/
theorem step_ask {q : Call} {next : Answer q → Dialogue Call Answer α}
    (h : c.dialogues i = .ask q next) :
    step client pause c i =
      ⟨Function.update c.dialogues i (next (client q c.state).1), (client q c.state).2,
        c.log ++ [(i, ⟨q, (client q c.state).1⟩)]⟩ := by
  rw [step, h]

/-- What every step keeps, a schedule keeps. -/
theorem run_induction {P : Interleaving ι Answer α σ → Prop}
    (hstep : ∀ c i, P c → P (step client pause c i)) (schedule : List ι) (h : P c) :
    P (run client pause schedule c) := by
  induction schedule generalizing c with
  | nil => exact h
  | cons i rest ih => exact ih (hstep c i h)

end Interleaving

end CertRenewal
