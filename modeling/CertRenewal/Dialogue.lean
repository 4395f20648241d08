/-!
# Dialogues with a client

A dialogue is a computation that asks questions and waits between them. The type of an answer may
depend on the question. Who answers is left open, so that a dialogue has a meaning for every client:
`run` lets a client with a state answer, and `interpret` lets another dialogue answer.
-/

namespace CertRenewal

/-- A computation that asks calls of a client, waits, and ends with a value. -/
inductive Dialogue (Call : Type) (Answer : Call → Type) (α : Type) where
  | done (value : α)
  | ask (call : Call) (next : Answer call → Dialogue Call Answer α)
  | wait (milliseconds : Nat) (next : Dialogue Call Answer α)

namespace Dialogue

variable {Call Call₂ : Type} {Answer : Call → Type} {Answer₂ : Call₂ → Type} {α β σ : Type}

/-- Goes on with the value that a dialogue ends with. -/
def bind (d : Dialogue Call Answer α) (f : α → Dialogue Call Answer β) : Dialogue Call Answer β :=
  match d with
  | done value => f value
  | ask call next => ask call fun answer => (next answer).bind f
  | wait milliseconds next => wait milliseconds (next.bind f)

instance : Monad (Dialogue Call Answer) where
  pure := done
  bind := bind

def call (c : Call) : Dialogue Call Answer (Answer c) := ask c done

/-- Lets a client with a state answer. `pause` is what the state does while the dialogue waits. -/
def run (client : (c : Call) → σ → Answer c × σ) (pause : Nat → σ → σ) :
    Dialogue Call Answer α → σ → α × σ
  | done value, s => (value, s)
  | ask c next, s =>
    let (answer, s) := client c s
    (next answer).run client pause s
  | wait milliseconds next, s => next.run client pause (pause milliseconds s)

/-- Lets a dialogue about other calls answer each question. -/
def interpret (f : (c : Call) → Dialogue Call₂ Answer₂ (Answer c)) :
    Dialogue Call Answer α → Dialogue Call₂ Answer₂ α
  | done value => done value
  | ask c next => (f c).bind fun answer => (next answer).interpret f
  | wait milliseconds next => wait milliseconds (next.interpret f)

/-- Goes on with the result of a dialogue that may fail. -/
def andThen {ε : Type} (d : Dialogue Call Answer (Except ε α))
    (f : α → Dialogue Call Answer (Except ε β)) : Dialogue Call Answer (Except ε β) :=
  d.bind fun
    | .ok value => f value
    | .error e => done (.error e)

/-- Rewords the error of a dialogue that may fail. -/
def mapError {ε₁ ε₂ : Type} (f : ε₁ → ε₂) (d : Dialogue Call Answer (Except ε₁ α)) :
    Dialogue Call Answer (Except ε₂ α) :=
  d.bind fun result => done (result.mapError f)

end Dialogue

end CertRenewal
