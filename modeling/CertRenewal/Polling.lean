import CertRenewal.Dialogue

/-!
# Polling

A condition is checked until it holds, until it can no longer come to hold, or until a number of
checks has been made. Between two checks, and only there, lies a fixed time.
-/

namespace CertRenewal.Polling

/-- How often a condition is checked, and how long to wait between two checks. -/
structure Policy where
  maxAttempts : Nat
  /-- In milliseconds. -/
  interval : Nat
  deriving DecidableEq, Repr

namespace Policy

/-- A policy of at least one check. -/
def ofNumbers (maxAttempts interval : Nat) : Policy := ⟨max 1 maxAttempts, interval⟩

/-- Thirty checks, ten seconds apart. -/
def standard : Policy := ⟨30, 10000⟩

/-- The number of checks that are made at most. The first one is made in any case. -/
def budget (p : Policy) : Nat := max 1 p.maxAttempts

end Policy

inductive Check (α : Type) where
  /-- The condition holds. -/
  | ready (value : α)
  /-- The condition does not hold yet. -/
  | notReady
  /-- The check itself failed, which counts as not yet. -/
  | failed
  /-- The condition can no longer come to hold. -/
  | hopeless
  deriving DecidableEq, Repr

inductive Error where
  | exhausted (attempts : Nat)
  | aborted (attempts : Nat)
  deriving DecidableEq, Repr

variable {Call : Type} {Answer : Call → Type} {α : Type}

/-- Checks a condition once more, after `made` checks, and at most `further` times after that. -/
def pollFrom (interval : Nat) (check : Dialogue Call Answer (Check α)) (made : Nat) :
    Nat → Dialogue Call Answer (Except Error α)
  | 0 => check.bind fun
    | .ready value => .done (.ok value)
    | .hopeless => .done (.error (.aborted (made + 1)))
    | .notReady | .failed => .done (.error (.exhausted (made + 1)))
  | further + 1 => check.bind fun
    | .ready value => .done (.ok value)
    | .hopeless => .done (.error (.aborted (made + 1)))
    | .notReady | .failed => .wait interval (pollFrom interval check (made + 1) further)

def poll (policy : Policy) (check : Dialogue Call Answer (Check α)) :
    Dialogue Call Answer (Except Error α) :=
  pollFrom policy.interval check 0 (policy.budget - 1)

end CertRenewal.Polling
