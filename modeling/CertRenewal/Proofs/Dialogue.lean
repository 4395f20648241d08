import CertRenewal.Dialogue
import Mathlib.Data.List.Basic
import Mathlib.Logic.Function.Iterate

/-!
# Runs of a dialogue

What a dialogue asks of a client, and what it is told, is its transcript: the list of exchanges in
the order in which they are made. A client is any function of the question and of a state, so that
an answer may depend on everything that was asked before.

* `run_bind`, `transcript_bind`: a sequence of dialogues is a sequence of runs, and the transcripts
  are put one behind the other. `run_andThen_ok` and `transcript_andThen_ok`, and the same with
  `error`, are about dialogues that may fail.
* `stateBehind`: what exchanges leave behind them, so that a transcript tells the state of a client.
* `run_interpret`: a dialogue that answers the questions of another.
* `Within`: which questions may be asked, whatever the answers. `Within.interpret` passes this on to
  the dialogue with another client that answers them.
* `Every`: what holds of the exchanges and the value of every run, said without a client. The
  answers are then plain variables; `Every.run` brings the client back.
* `stateAt`, `answerAt` and `stateAfter`: a question that is repeated, with waits in between.
-/

namespace CertRenewal

structure Exchange {Call : Type} (Answer : Call → Type) where
  call : Call
  answer : Answer call

namespace Dialogue

variable {Call : Type} {Answer : Call → Type} {α β ε ε' σ : Type}
variable (client : (c : Call) → σ → Answer c × σ) (pause : Nat → σ → σ)

def transcript : Dialogue Call Answer α → σ → List (Exchange Answer)
  | done _, _ => []
  | ask c next, s =>
    ⟨c, (client c s).1⟩ :: (next (client c s).1).transcript (client c s).2
  | wait milliseconds next, s => next.transcript (pause milliseconds s)

/-! ## One step -/

@[simp] theorem run_done (v : α) (s : σ) :
    (done v : Dialogue Call Answer α).run client pause s = (v, s) := rfl

@[simp] theorem run_ask (c : Call) (next : Answer c → Dialogue Call Answer α) (s : σ) :
    (ask c next).run client pause s =
      (next (client c s).1).run client pause (client c s).2 := rfl

/-- The run goes on with the answer, and in the state behind it. -/
theorem run_ask_of_answer {c : Call} (next : Answer c → Dialogue Call Answer α) {s s' : σ}
    {answer : Answer c} (h : client c s = (answer, s')) :
    (ask c next).run client pause s = (next answer).run client pause s' := by
  rw [run_ask, h]

@[simp] theorem run_wait (ms : Nat) (next : Dialogue Call Answer α) (s : σ) :
    (wait ms next).run client pause s = next.run client pause (pause ms s) := rfl

@[simp] theorem transcript_done (v : α) (s : σ) :
    (done v : Dialogue Call Answer α).transcript client pause s = [] := rfl

@[simp] theorem transcript_ask (c : Call) (next : Answer c → Dialogue Call Answer α) (s : σ) :
    (ask c next).transcript client pause s =
      ⟨c, (client c s).1⟩ :: (next (client c s).1).transcript client pause (client c s).2 := rfl

theorem transcript_ask_of_answer {c : Call} (next : Answer c → Dialogue Call Answer α) {s s' : σ}
    {answer : Answer c} (h : client c s = (answer, s')) :
    (ask c next).transcript client pause s =
      ⟨c, answer⟩ :: (next answer).transcript client pause s' := by
  rw [transcript_ask, h]

@[simp] theorem transcript_wait (ms : Nat) (next : Dialogue Call Answer α) (s : σ) :
    (wait ms next).transcript client pause s = next.transcript client pause (pause ms s) := rfl

@[simp] theorem bind_eq (d : Dialogue Call Answer α) (f : α → Dialogue Call Answer β) :
    d >>= f = d.bind f := rfl

@[simp] theorem pure_eq (v : α) : (pure v : Dialogue Call Answer α) = done v := rfl

/-! ## Sequences -/

/-- A run of a sequence goes on from the value and the state that the first run ends with. -/
@[simp] theorem run_bind (d : Dialogue Call Answer α) (f : α → Dialogue Call Answer β) (s : σ) :
    (d.bind f).run client pause s =
      (f (d.run client pause s).1).run client pause (d.run client pause s).2 := by
  induction d generalizing s with
  | done v => rfl
  | ask c next ih => exact ih (client c s).1 (client c s).2
  | wait ms next ih => exact ih (pause ms s)

@[simp] theorem transcript_bind (d : Dialogue Call Answer α) (f : α → Dialogue Call Answer β)
    (s : σ) :
    (d.bind f).transcript client pause s =
      d.transcript client pause s ++
        (f (d.run client pause s).1).transcript client pause (d.run client pause s).2 := by
  induction d generalizing s with
  | done v => rfl
  | ask c next ih =>
    rw [bind, transcript_ask, ih, transcript_ask, run_ask, List.cons_append]
  | wait ms next ih => exact ih (pause ms s)

/-- What follows a dialogue that succeeds. -/
theorem run_andThen_ok {d : Dialogue Call Answer (Except ε α)} {v : α} {s s' : σ}
    (f : α → Dialogue Call Answer (Except ε β)) (h : d.run client pause s = (.ok v, s')) :
    (d.andThen f).run client pause s = (f v).run client pause s' := by
  rw [andThen, run_bind, h]

/-- Nothing follows a dialogue that fails. -/
theorem run_andThen_error {d : Dialogue Call Answer (Except ε α)} {e : ε} {s s' : σ}
    (f : α → Dialogue Call Answer (Except ε β)) (h : d.run client pause s = (.error e, s')) :
    (d.andThen f).run client pause s = (.error e, s') := by
  rw [andThen, run_bind, h]
  rfl

/-- A sequence succeeds exactly when both parts do. -/
theorem run_andThen_ok_iff {d : Dialogue Call Answer (Except ε α)}
    {f : α → Dialogue Call Answer (Except ε β)} {w : β} {s s'' : σ} :
    (d.andThen f).run client pause s = (.ok w, s'') ↔
      ∃ v s', d.run client pause s = (.ok v, s') ∧ (f v).run client pause s' = (.ok w, s'') := by
  rcases h : d.run client pause s with ⟨_ | v, s'⟩
  · rw [run_andThen_error client pause f h]
    simp
  · rw [run_andThen_ok client pause f h]
    constructor
    · exact fun hw => ⟨v, s', rfl, hw⟩
    · rintro ⟨v', t, heq, hw⟩
      cases heq
      exact hw

/-- A sequence fails when its first part does, or when the first succeeds and the second fails. -/
theorem run_andThen_error_iff {d : Dialogue Call Answer (Except ε α)}
    {f : α → Dialogue Call Answer (Except ε β)} {e : ε} {s : σ} :
    ((d.andThen f).run client pause s).1 = .error e ↔
      (d.run client pause s).1 = .error e ∨
        ∃ v s', d.run client pause s = (.ok v, s') ∧
          ((f v).run client pause s').1 = .error e := by
  rcases h : d.run client pause s with ⟨e' | v, s'⟩
  · rw [run_andThen_error client pause f h]
    simp
  · rw [run_andThen_ok client pause f h]
    constructor
    · exact fun he => Or.inr ⟨v, s', rfl, he⟩
    · rintro (he | ⟨v', t, heq, he⟩)
      · exact absurd he (by simp)
      · cases heq
        exact he

theorem transcript_andThen_ok {d : Dialogue Call Answer (Except ε α)} {v : α} {s s' : σ}
    (f : α → Dialogue Call Answer (Except ε β)) (h : d.run client pause s = (.ok v, s')) :
    (d.andThen f).transcript client pause s =
      d.transcript client pause s ++ (f v).transcript client pause s' := by
  rw [andThen, transcript_bind, h]

/-- What is to follow does not take place after an error. -/
theorem transcript_andThen_error {d : Dialogue Call Answer (Except ε α)} {e : ε} {s s' : σ}
    (f : α → Dialogue Call Answer (Except ε β)) (h : d.run client pause s = (.error e, s')) :
    (d.andThen f).transcript client pause s = d.transcript client pause s := by
  rw [andThen, transcript_bind, h]
  simp

/-- A result that is only put into another form adds no exchanges. -/
theorem transcript_andThen_done (f : α → Except ε β) (d : Dialogue Call Answer (Except ε α))
    (s : σ) :
    (d.andThen fun v => done (f v)).transcript client pause s = d.transcript client pause s := by
  cases h : (d.run client pause s).1 with
  | ok v =>
    rw [transcript_andThen_ok client pause _ (Prod.ext h rfl), transcript_done, List.append_nil]
  | error e => rw [transcript_andThen_error client pause _ (Prod.ext h rfl)]

/-- Rewording an error changes neither the exchanges nor the state. -/
@[simp] theorem run_mapError (f : ε → ε') (d : Dialogue Call Answer (Except ε α)) (s : σ) :
    (d.mapError f).run client pause s =
      ((d.run client pause s).1.mapError f, (d.run client pause s).2) := by
  rw [mapError, run_bind, run_done]

@[simp] theorem transcript_mapError (f : ε → ε') (d : Dialogue Call Answer (Except ε α)) (s : σ) :
    (d.mapError f).transcript client pause s = d.transcript client pause s := by
  rw [mapError, transcript_bind, transcript_done, List.append_nil]

/-! ## Clients that take no time -/

/-- The state that exchanges leave, when nothing changes while a dialogue waits. -/
def stateBehind (xs : List (Exchange Answer)) (s : σ) : σ :=
  xs.foldl (fun s x => (client x.call s).2) s

@[simp] theorem stateBehind_nil (s : σ) :
    stateBehind client ([] : List (Exchange Answer)) s = s := rfl

@[simp] theorem stateBehind_cons (x : Exchange Answer) (xs : List (Exchange Answer)) (s : σ) :
    stateBehind client (x :: xs) s = stateBehind client xs (client x.call s).2 := rfl

/-- A run leaves the state that its exchanges leave. -/
theorem run_snd_eq_stateBehind (d : Dialogue Call Answer α) (s : σ) :
    (d.run client (fun _ s => s) s).2 =
      stateBehind client (d.transcript client (fun _ s => s) s) s := by
  induction d generalizing s with
  | done v => rfl
  | ask c next ih => exact ih (client c s).1 (client c s).2
  | wait ms next ih => exact ih s

/-- An answer is what the client says in the state that the exchanges before it leave. -/
theorem answer_eq_of_transcript {d : Dialogue Call Answer α} {s : σ}
    {before after : List (Exchange Answer)} {x : Exchange Answer}
    (h : d.transcript client (fun _ s => s) s = before ++ x :: after) :
    x.answer = (client x.call (stateBehind client before s)).1 := by
  induction d generalizing s before with
  | done v => simp at h
  | ask c next ih =>
    rw [transcript_ask] at h
    cases before with
    | nil =>
      cases h
      rfl
    | cons y before =>
      obtain ⟨rfl, hrest⟩ := List.cons.inj h
      rw [stateBehind_cons]
      exact ih (client c s).1 hrest
  | wait ms next ih => exact ih h

/-- The last question leads to the state that the run leaves. -/
theorem client_last {d : Dialogue Call Answer α} {s : σ} (before : List (Exchange Answer))
    {x : Exchange Answer} (h : d.transcript client (fun _ s => s) s = before ++ [x]) :
    client x.call (stateBehind client before s) =
      (x.answer, (d.run client (fun _ s => s) s).2) := by
  refine Prod.ext (answer_eq_of_transcript client h).symm ?_
  rw [run_snd_eq_stateBehind, h, stateBehind, stateBehind, List.foldl_append]
  rfl

/-! ## Clients that are dialogues -/

/-- A dialogue that answers the questions of another is a client of it, whose state is that of the
client that it asks itself. -/
theorem run_interpret {Call₂ : Type} {Answer₂ : Call₂ → Type}
    (f : (c : Call) → Dialogue Call₂ Answer₂ (Answer c))
    (server : (c : Call₂) → σ → Answer₂ c × σ) (d : Dialogue Call Answer α) (s : σ) :
    (d.interpret f).run server pause s =
      d.run (fun c s => (f c).run server pause s) pause s := by
  induction d generalizing s with
  | done v => rfl
  | ask c next ih =>
    rw [interpret, run_bind, run_ask]
    exact ih _ _
  | wait ms next ih => exact ih (pause ms s)

theorem bind_assoc {γ : Type} (d : Dialogue Call Answer α) (f : α → Dialogue Call Answer β)
    (g : β → Dialogue Call Answer γ) : (d.bind f).bind g = d.bind fun v => (f v).bind g := by
  induction d with
  | done v => rfl
  | ask c next ih => exact congrArg (ask c) (funext ih)
  | wait ms next ih => exact congrArg (wait ms) ih

/-- A sequence is interpreted part by part. -/
theorem interpret_bind {Call₂ : Type} {Answer₂ : Call₂ → Type}
    (f : (c : Call) → Dialogue Call₂ Answer₂ (Answer c)) (d : Dialogue Call Answer α)
    (k : α → Dialogue Call Answer β) :
    (d.bind k).interpret f = (d.interpret f).bind fun v => (k v).interpret f := by
  induction d with
  | done v => rfl
  | ask c next ih =>
    rw [interpret, bind_assoc]
    exact congrArg (f c).bind (funext ih)
  | wait ms next ih => exact congrArg (wait ms) ih

/-- Questions that are passed on under other names are answered as these are. -/
theorem interpret_interpret_call {Call₂ Call₃ : Type} {Answer₂ : Call₂ → Type}
    {Answer₃ : Call₃ → Type} (name : Call → Call₂)
    (f : (c : Call₂) → Dialogue Call₃ Answer₃ (Answer₂ c))
    (d : Dialogue Call (fun c => Answer₂ (name c)) α) :
    (d.interpret fun c => call (name c)).interpret f = d.interpret fun c => f (name c) := by
  induction d with
  | done v => rfl
  | ask c next ih => exact congrArg (f (name c)).bind (funext ih)
  | wait ms next ih => exact congrArg (wait ms) ih

/-- Questions that are passed on under other names are asked in the same order, and are answered as
the other client answers them. -/
theorem transcript_interpret_call {Call₂ : Type} {Answer₂ : Call₂ → Type} (name : Call → Call₂)
    (server : (c : Call₂) → σ → Answer₂ c × σ)
    (d : Dialogue Call (fun c => Answer₂ (name c)) α) (s : σ) :
    (d.interpret fun c => call (name c)).transcript server pause s =
      (d.transcript (fun c => server (name c)) pause s).map fun x => ⟨name x.call, x.answer⟩ := by
  induction d generalizing s with
  | done v => rfl
  | ask c next ih => exact congrArg (List.cons _) (ih _ _)
  | wait ms next ih => exact ih (pause ms s)

/-! ## Clients that agree -/

/-- Every question that may be asked, whatever the answers, is an allowed one. -/
def Within (allowed : Call → Prop) : Dialogue Call Answer α → Prop
  | done _ => True
  | ask c next => allowed c ∧ ∀ answer, (next answer).Within allowed
  | wait _ next => next.Within allowed

variable {client₁ client₂ : (c : Call) → σ → Answer c × σ} {allowed : Call → Prop}

/-- Clients that answer the allowed questions alike cannot be told apart by a dialogue that asks no
others. -/
theorem run_congr (hclient : ∀ c, allowed c → client₁ c = client₂ c)
    {d : Dialogue Call Answer α} (h : d.Within allowed) (s : σ) :
    d.run client₁ pause s = d.run client₂ pause s := by
  induction d generalizing s with
  | done v => rfl
  | ask c next ih => rw [run_ask, run_ask, ih _ (h.2 _), hclient c h.1]
  | wait ms next ih => exact ih h (pause ms s)

/-- Clients that agree on the allowed questions make the same exchanges. -/
theorem transcript_congr (hclient : ∀ c, allowed c → client₁ c = client₂ c)
    {d : Dialogue Call Answer α} (h : d.Within allowed) (s : σ) :
    d.transcript client₁ pause s = d.transcript client₂ pause s := by
  induction d generalizing s with
  | done v => rfl
  | ask c next ih => rw [transcript_ask, transcript_ask, ih _ (h.2 _), hclient c h.1]
  | wait ms next ih => exact ih h (pause ms s)

namespace Within

variable {P Q : Call → Prop}

theorem mono {d : Dialogue Call Answer α} (h : d.Within P) (hmono : ∀ c, P c → Q c) :
    d.Within Q := by
  induction d with
  | done v => trivial
  | ask c next ih => exact ⟨hmono c h.1, fun answer => ih answer (h.2 answer)⟩
  | wait ms next ih => exact ih h

theorem bind {d : Dialogue Call Answer α} {f : α → Dialogue Call Answer β} (h : d.Within P)
    (hnext : ∀ v, (f v).Within P) : (d.bind f).Within P := by
  induction d with
  | done v => exact hnext v
  | ask c next ih => exact ⟨h.1, fun answer => ih answer (h.2 answer)⟩
  | wait ms next ih => exact ih h

theorem andThen {d : Dialogue Call Answer (Except ε α)}
    {f : α → Dialogue Call Answer (Except ε β)} (h : d.Within P) (hnext : ∀ v, (f v).Within P) :
    (d.andThen f).Within P := by
  refine h.bind fun v => ?_
  cases v with
  | error e => trivial
  | ok v => exact hnext v

theorem mapError {d : Dialogue Call Answer (Except ε α)} (h : d.Within P) (f : ε → ε') :
    (d.mapError f).Within P :=
  h.bind fun _ => trivial

/-- Where a dialogue asks allowed questions only, each of which is answered by what is allowed then,
the interpretation does what is allowed. -/
theorem interpret {Call₂ : Type} {Answer₂ : Call₂ → Type} {P₂ : Call₂ → Prop}
    {f : (c : Call) → Dialogue Call₂ Answer₂ (Answer c)} {d : Dialogue Call Answer α}
    (h : d.Within P) (hf : ∀ c, P c → (f c).Within P₂) : (d.interpret f).Within P₂ := by
  induction d with
  | done v => trivial
  | ask c next ih => exact (hf c h.1).bind fun answer => ih answer (h.2 answer)
  | wait ms next ih => exact ih h

end Within

/-! ## What holds of every run -/

/-- A relation between the exchanges and the value holds of every run, whatever the answers. -/
def Every (P : List (Exchange Answer) → α → Prop) : Dialogue Call Answer α → Prop
  | done v => P [] v
  | ask c next => ∀ answer, (next answer).Every fun xs v => P (⟨c, answer⟩ :: xs) v
  | wait _ next => next.Every P

namespace Every

variable {P Q : List (Exchange Answer) → α → Prop} {d : Dialogue Call Answer α}

/-- A relation that holds of every run holds whatever the client is. -/
theorem run (h : d.Every P) (s : σ) :
    P (d.transcript client pause s) (d.run client pause s).1 := by
  induction d generalizing P s with
  | done v => exact h
  | ask c next ih => exact ih _ (h _) _
  | wait ms next ih => exact ih h _

theorem mono (h : d.Every Q) (hmono : ∀ xs v, Q xs v → P xs v) : d.Every P := by
  induction d generalizing P Q with
  | done v => exact hmono _ _ h
  | ask c next ih => exact fun answer => ih answer (h answer) fun xs v => hmono _ v
  | wait ms next ih => exact ih h hmono

/-- A sequence: what is known of the first part must lead to what is to hold of the whole. -/
theorem bind {P : List (Exchange Answer) → β → Prop} {f : α → Dialogue Call Answer β}
    (h : d.Every Q) (hnext : ∀ xs v, Q xs v → (f v).Every fun ys w => P (xs ++ ys) w) :
    (d.bind f).Every P := by
  induction d generalizing P Q with
  | done v => exact hnext [] v h
  | ask c next ih => exact fun answer => ih answer (h answer) fun xs v => hnext _ v
  | wait ms next ih => exact ih h hnext

/-- A dialogue whose value is only put into another form. -/
theorem bind_done {P : List (Exchange Answer) → β → Prop} {f : α → β}
    (h : d.Every fun xs v => P xs (f v)) : (d.bind fun v => done (f v)).Every P := by
  refine h.bind fun xs v hv => ?_
  show P (xs ++ []) (f v)
  rw [List.append_nil]
  exact hv

/-- A sequence that may fail: its second part is only there when the first succeeds. -/
theorem andThen {Q : List (Exchange Answer) → Except ε α → Prop}
    {P : List (Exchange Answer) → Except ε β → Prop} {d : Dialogue Call Answer (Except ε α)}
    {f : α → Dialogue Call Answer (Except ε β)} (h : d.Every Q)
    (herror : ∀ xs e, Q xs (.error e) → P xs (.error e))
    (hok : ∀ xs v, Q xs (.ok v) → (f v).Every fun ys w => P (xs ++ ys) w) :
    (d.andThen f).Every P := by
  refine h.bind fun xs v hv => ?_
  cases v with
  | error e =>
    show P (xs ++ []) (.error e)
    rw [List.append_nil]
    exact herror xs e hv
  | ok v => exact hok xs v hv

/-- The questions of every run are allowed ones. -/
theorem of_within {allowed : Call → Prop} {d : Dialogue Call Answer α} (h : d.Within allowed) :
    d.Every fun xs _ => ∀ x ∈ xs, allowed x.call := by
  induction d with
  | done v => exact List.forall_mem_nil _
  | ask c next ih =>
    exact fun answer => (ih answer (h.2 answer)).mono fun xs v hxs =>
      List.forall_mem_cons.mpr ⟨h.1, hxs⟩
  | wait ms next ih => exact ih h

/-- A sequence whose second part asks nothing. -/
theorem andThen_done {Q : List (Exchange Answer) → Except ε α → Prop}
    {P : List (Exchange Answer) → Except ε β → Prop} {d : Dialogue Call Answer (Except ε α)}
    {f : α → Except ε β} (h : d.Every Q) (herror : ∀ xs e, Q xs (.error e) → P xs (.error e))
    (hok : ∀ xs v, Q xs (.ok v) → P xs (f v)) :
    (d.andThen fun v => done (f v)).Every P := by
  refine h.andThen herror fun xs v hv => ?_
  show P (xs ++ []) (f v)
  rw [List.append_nil]
  exact hok xs v hv

/-- A dialogue whose questions are answered by dialogues with another client: the exchanges with the
other client come in pieces, one for each question of the dialogue and its answer. -/
theorem interpret {Call₂ : Type} {Answer₂ : Call₂ → Type}
    {R : Exchange Answer → List (Exchange Answer₂) → Prop}
    {f : (c : Call) → Dialogue Call₂ Answer₂ (Answer c)} (h : d.Every P)
    (hf : ∀ c, (f c).Every fun ys answer => R ⟨c, answer⟩ ys) :
    (d.interpret f).Every fun ys v =>
      ∃ xs pieces, P xs v ∧ List.Forall₂ R xs pieces ∧ ys = pieces.flatten := by
  induction d generalizing P with
  | done v => exact ⟨[], [], h, .nil, rfl⟩
  | ask c next ih =>
    refine (hf c).bind fun ys answer hys => (ih answer (h answer)).mono ?_
    rintro _ v ⟨xs, pieces, hxs, hpieces, rfl⟩
    exact ⟨⟨c, answer⟩ :: xs, ys :: pieces, hxs, .cons hys hpieces, rfl⟩
  | wait ms next ih => exact ih h

end Every

/-! ## A question that is repeated -/

/-- The state in which a question is asked for the `n`-th time, counted from zero, when there is a
wait after each time. -/
def stateAt (interval : Nat) (c : Call) (s : σ) (n : Nat) : σ :=
  (fun s => pause interval (client c s).2)^[n] s

def answerAt (interval : Nat) (c : Call) (s : σ) (n : Nat) : Answer c :=
  (client c (stateAt client pause interval c s n)).1

/-- The state right after a question has been asked for the `n`-th time. -/
def stateAfter (interval : Nat) (c : Call) (s : σ) (n : Nat) : σ :=
  (client c (stateAt client pause interval c s n)).2

end Dialogue

end CertRenewal
