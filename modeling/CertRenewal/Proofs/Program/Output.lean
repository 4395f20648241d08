import CertRenewal.Proofs.Program.Confinement
import CertRenewal.Proofs.Report.CutOff
import CertRenewal.Proofs.Text.Pieces

/-!
# The standard output carries results only

A run that ends with a status other than zero leaves the standard output empty, whatever has been
done before it failed. A run of a command that ends with status zero leaves there the bytes that
`Writes` says: the lines of the banner of the outcome, the text of the report in its format, or a
line for each deletion that was sent. `run_writes_results` is the main statement.

That the lines of a rotation are those of the deletions sent is put together from what a rotation
asks and what is sent for it. A rotation that succeeds has been refused nothing (`Course.halting`);
a deletion that is not refused has been sent by one request (`Sent`); and the report names what was
to be deleted, in order (`Course.deletions_eq`).
-/

namespace CertRenewal.Program

-- Whether a target is an address is decided by its characters; unfolding it says nothing here.
attribute [local irreducible] Server.Address.ofText

open CertRenewal.CommandLine (Arguments Command Stop)
open CertRenewal.Dialogue (Every)
open CertRenewal.Server (InventoryScope Request Response)
open CertRenewal.Tokens (Granted RotatedToken)

/-! ## Deletions -/

def deletionRequests (xs : List Exchanged) : List Request :=
  (xs.map (·.call)).filter (·.method = .delete)

theorem deletionRequests_append (xs ys : List Exchanged) :
    deletionRequests (xs ++ ys) = deletionRequests xs ++ deletionRequests ys := by
  rw [deletionRequests, deletionRequests, deletionRequests, List.map_append, List.filter_append]

theorem deletionRequests_of_reads {xs : List Exchanged} (h : ∀ x ∈ xs, Server.Reads x.call) :
    deletionRequests xs = [] := by
  rw [deletionRequests, List.filter_eq_nil_iff, List.forall_mem_map]
  intro x hx
  rw [h x hx]
  decide

/-- The deletions that are sent for questions are those that are asked for, in their order. -/
def Sent (asked : List Inventory.Call) (xs : List Exchanged) : Prop :=
  List.Forall₂ InventoryScope asked (deletionRequests xs)

/-- What is sent for questions is sent for each of them in turn. -/
theorem Sent.append {asked asked' : List Inventory.Call} {xs ys : List Exchanged}
    (hxs : Sent asked xs) (hys : Sent asked' ys) : Sent (asked ++ asked') (xs ++ ys) := by
  rw [Sent, deletionRequests_append]
  exact List.rel_append hxs hys

/-- A question that asks for a deletion is sent as one. -/
theorem method_of_deletion {c : Inventory.Call} {r : Request} (hc : c.isDeletion = true)
    (hr : InventoryScope c r) : r.method = .delete := by
  cases c with
  | deleteSecret namespace_ name => exact hr.method
  | deletePod namespace_ name => exact hr.method
  | listSecrets query => cases hc
  | getSecret namespace_ name => cases hc
  | listPods namespace_ => cases hc
  | listNodes => cases hc

/-- One request for a deletion answers the question for it. -/
theorem sent_deletion {c : Inventory.Call} {r : Request} (hc : c.isDeletion = true)
    (hr : InventoryScope c r) (answer : c.Answer) (response : Response) :
    Sent (Tokens.deletions [⟨c, answer⟩]) [⟨r, response⟩] := by
  have hrequests : deletionRequests [⟨r, response⟩] = [r] :=
    List.filter_cons_of_pos (by simp [method_of_deletion hc hr])
  have hdeletions : Tokens.deletions [⟨c, answer⟩] = [c] := List.filter_cons_of_pos hc
  rw [Sent, hrequests, hdeletions]
  exact .cons hr .nil

/-- What is sent for a question that is not refused. -/
def SentUnlessRefused (x : Tokens.Exchanged) (ys : List Exchanged) : Prop :=
  Tokens.refusal? x = none → Sent (Tokens.deletions [x]) ys

/-- A question that asks for no deletion is answered by requests that only read. -/
theorem every_reading {c : Inventory.Call} (h : c.isDeletion = false) :
    (Server.inventory c).Every fun ys answer => SentUnlessRefused ⟨c, answer⟩ ys := by
  refine (Every.of_within (Server.inventory_within c)).mono fun ys answer hys _ => ?_
  have hrequests := deletionRequests_of_reads fun y hy => reads_of_asked h (hys y hy)
  rw [Sent, hrequests, Tokens.deletions, List.map_singleton, List.filter_singleton, h]
  exact .nil

/-- Unless it is refused, a question for a deletion is answered by one request for it. -/
theorem every_inventory (c : Inventory.Call) :
    (Server.inventory c).Every fun ys answer => SentUnlessRefused ⟨c, answer⟩ ys := by
  cases c with
  | listSecrets query => exact every_reading rfl
  | getSecret namespace_ name => exact every_reading rfl
  | listPods namespace_ => exact every_reading rfl
  | listNodes => exact every_reading rfl
  | deleteSecret namespace_ name =>
    refine Every.bind_done (Every.mono
      (Server.every_delete (Server.objectPath_secret namespace_ name) _) ?_)
    rintro ys v (⟨rfl, cause, rfl⟩ | ⟨r, response, rfl, hr⟩) hgranted
    · cases hgranted
    · exact sent_deletion (c := .deleteSecret namespace_ name) rfl hr _ response
  | deletePod namespace_ name =>
    refine Every.bind_done (Every.mono
      (Server.every_delete (Server.objectPath_pod namespace_ name) _) ?_)
    rintro ys v (⟨rfl, cause, rfl⟩ | ⟨r, response, rfl, hr⟩) hgranted
    · cases hgranted
    · exact sent_deletion (c := .deletePod namespace_ name) rfl hr _ response

/-- When nothing is refused, the deletions that are asked for are sent, in their order. -/
theorem sent_of_granted {xs : List Tokens.Exchanged} {pieces : List (List Exchanged)}
    (h : List.Forall₂ SentUnlessRefused xs pieces) (hgranted : Granted xs) :
    Sent (Tokens.deletions xs) pieces.flatten := by
  induction h with
  | nil => exact .nil
  | @cons x ys xs pieces hys hrest ih =>
    obtain ⟨hx, hxs⟩ := List.forall_mem_cons.mp hgranted
    have hdeletions : Tokens.deletions (x :: xs) = Tokens.deletions [x] ++ Tokens.deletions xs :=
      Tokens.deletions_append [x] xs
    rw [hdeletions, List.flatten_cons]
    exact (hys hx).append (ih hxs)

/-- A rotation that succeeds has sent the deletions that its report names. -/
theorem every_rotation (namespace_ : String) (name? : Option String) :
    ((Tokens.rotate namespace_ name?).interpret Server.inventory).Every fun ys v =>
      ∀ tokens, v = .ok tokens → Sent (tokens.flatMap (RotatedToken.deletions namespace_)) ys := by
  refine (Every.interpret (Tokens.every_rotate name?) every_inventory).mono ?_
  rintro _ _ ⟨xs, pieces, hcourse, hpieces, rfl⟩ tokens rfl
  have hgranted : Granted xs := by
    cases hcourse.halting with
    | granted hgranted => exact hgranted
  rw [← hcourse.deletions_eq]
  exact sent_of_granted hpieces hgranted

/-! ## Lines -/

def textBytes (text : String) : List UInt8 := text.toUTF8.data.toList

/-- The bytes of a line: its text and a line feed. -/
def lineBytes (text : String) : List UInt8 := textBytes (text ++ "\n")

theorem line_eq (text : String) : line text = lineBytes text := by
  rw [line, lineBytes, textBytes, ← Text.Utf8.encode_toList, String.toList_append]
  rfl

/-- The bytes of a report are those of its text. -/
theorem render_eq_textBytes (report : Report) (format : Report.Format) :
    report.render format = textBytes (String.ofList (report.text format)) := by
  rw [Report.render_eq_encode_text, textBytes, ← Text.Utf8.encode_toList, String.toList_ofList]

/-- Lines in bytes are the bytes of their characters, with a line feed behind each. -/
theorem flatMap_lineBytes (lines : List String) :
    lines.flatMap lineBytes = Text.Utf8.encode (lines.flatMap fun text => text.toList ++ ['\n']) := by
  rw [Text.Utf8.encode, List.flatMap_assoc]
  exact List.flatMap_congr fun text _ => (line_eq text).symm

def bannerLines : Renewal.Outcome → List String
  | .inPlace nodes =>
    ["Certificates renewed in place on " ++ toString nodes.length ++ " control-plane node(s): " ++
        ", ".intercalate nodes,
      "Renewal pods are kept in namespace 'kube-system' for inspection. Monitor node health with:",
      "", "    kubectl get nodes -w"]
  | .rollingUpdate s =>
    ["Control plane '" ++ s.namespace_ ++ "/" ++ s.controlPlane ++
        "' now uses machine template '" ++ s.newTemplate ++ "' (previously '" ++
        s.previousTemplate ++ "').",
      "Control-plane machines will be replaced one at a time. Monitor progress with:", "",
      "    kubectl get machines -w", "    kubectl get kcp -w", "    kubectl get nodes -w"]

/-- The banner is written line by line. -/
theorem line_banner (outcome : Renewal.Outcome) :
    line outcome.banner = (bannerLines outcome).flatMap lineBytes := by
  rw [flatMap_lineBytes, line]
  refine congrArg Text.Utf8.encode ?_
  -- `delta`, since an equation of `banner` would have its long literals compared character by
  -- character
  delta Renewal.Outcome.banner bannerLines
  cases outcome with
  | inPlace nodes =>
    simp only [Text.joinStrings_eq_intercalate, String.toList_append, List.flatMap_cons,
      List.flatMap_nil, List.append_assoc, List.append_cancel_left_eq]
    decide +kernel
  | rollingUpdate s =>
    simp only [String.toList_append, List.flatMap_cons, List.flatMap_nil, List.append_assoc,
      List.append_cancel_left_eq]
    decide +kernel

def deletionLine : Inventory.Call → List UInt8
  | .deleteSecret _ name => lineBytes ("Rotated token - " ++ name)
  | .deletePod _ name => lineBytes ("Deleted pod - " ++ name)
  | .listSecrets _ | .getSecret _ _ | .listPods _ | .listNodes => []

/-- The lines about a token are those about its deletions. -/
theorem flatMap_deletionLine (namespace_ : String) (token : RotatedToken) :
    (token.deletions namespace_).flatMap deletionLine = tokenLines token := by
  simp only [tokenLines, line_eq, RotatedToken.deletions, List.flatMap_cons, List.flatMap_map]
  rfl

/-! ## Commands -/

variable {σ : Type} (setting : Setting) (server : Request → σ → Response × σ)
  (pause : Nat → σ → σ) (s : σ)

/-- What a command writes when it succeeds, and the requests it then has sent. -/
def Writes (sent : List Exchanged) (output : List UInt8) : Command → Prop
  | .renewCerts options => ∃ outcome,
      (((Renewal.renew .standard (imageOf options) (.ofFlag options.renewInPlace)
        options.expirationThreshold).interpret (Server.renewal setting.defaultNamespace)).run
          server pause s).1 = .ok outcome ∧
      output = (bannerLines outcome).flatMap lineBytes
  | .checkExpiration options => ∃ threshold report,
      Expiry.Threshold.parse options.duration = .ok threshold ∧
      (((Expiry.check ⟨threshold, setting.now⟩).interpret Server.inventory).run
        server pause s).1 = .ok report ∧
      output = textBytes (String.ofList (report.text options.output))
  | .resetToken options => ∃ tokens,
      (((Tokens.rotate options.namespace_ options.secretName).interpret Server.inventory).run
        server pause s).1 = .ok tokens ∧
      Sent (tokens.flatMap (RotatedToken.deletions options.namespace_)) sent ∧
      output = (tokens.flatMap (RotatedToken.deletions options.namespace_)).flatMap deletionLine ++
        lineBytes "Successfully rotated token"

/-- A command succeeds with what it writes. -/
theorem runCommand_ok_iff (command : Command) (output : List UInt8) :
    ((runCommand setting command).run server pause s).1 = .ok output ↔
      Writes setting server pause s ((runCommand setting command).transcript server pause s) output
        command := by
  cases command with
  | renewCerts options =>
    simp only [runCommand, renewCerts, Writes, Dialogue.bind_eq, Dialogue.run_bind, line_banner]
    cases (Dialogue.run server pause _ s).1 with
    | error cause => simp
    | ok outcome => simp [eq_comm]
  | checkExpiration options =>
    simp only [runCommand, checkExpiration, Writes]
    cases Expiry.Threshold.parse options.duration with
    | error cause => simp
    | ok threshold =>
      simp only [Dialogue.bind_eq, Dialogue.run_bind, Except.ok.injEq, exists_and_left,
        exists_eq_left', render_eq_textBytes]
      cases (Dialogue.run server pause _ s).1 with
      | error cause => simp
      | ok report => simp [eq_comm]
  | resetToken options =>
    have hsent := (every_rotation options.namespace_ options.secretName).run server pause s
    simp only [runCommand, resetToken, Writes, Dialogue.bind_eq, Dialogue.run_bind,
      Dialogue.transcript_bind, List.flatMap_assoc, flatMap_deletionLine, line_eq]
    cases h : (Dialogue.run server pause _ s).1 with
    | error cause => simp
    | ok tokens =>
      have hdeleted := hsent tokens h
      simp [hdeleted, eq_comm]

/-! ## Runs -/

/-- What comes of the words and the environment: no command, one that cannot be run, or a task. -/
inductive Preparation (environment : Environment) (words : List String) :
    Except Exit Task → Prop where
  | stopped {stop : Stop} (hwords : Arguments.parse words = .error stop) :
      Preparation environment words (.error (.ofStop stop))
  | refused {arguments : Arguments} (message : String)
      (hwords : Arguments.parse words = .ok arguments) :
      Preparation environment words (.error (.failure message))
  | ready {arguments : Arguments} (connection : Access.Connection)
      (hwords : Arguments.parse words = .ok arguments) :
      Preparation environment words (.ok ⟨connection, arguments.command⟩)

/-- Every command line comes to one of the three, in every environment. -/
theorem preparation (environment : Environment) (words : List String) :
    Preparation environment words (prepare environment words) := by
  simp only [prepare, bind, Except.bind, Except.mapError]
  cases hwords : Arguments.parse words with
  | error stop => exact .stopped hwords
  | ok arguments =>
    dsimp only
    generalize logSettings environment.machine = settings
    generalize Access.find environment.machine arguments.kubeconfig arguments.context = found
    cases settings with
    | error cause => exact .refused _ hwords
    | ok settings =>
      cases found with
      | error cause => exact .refused _ hwords
      | ok connection => exact .ready connection hwords

/-- A program that has run a command ends with status zero and with what the command writes, if the
command succeeds. -/
theorem Exit.ofResult_succeeds_iff (result : Except CommandError (List UInt8))
    (output : List UInt8) :
    (ofResult result).status = 0 ∧ (ofResult result).output = output ↔ result = .ok output := by
  cases result <;> simp [ofResult, failure]

theorem Exit.output_ofResult {result : Except CommandError (List UInt8)}
    (h : (ofResult result).status ≠ 0) : (ofResult result).output = [] := by
  cases result with
  | error cause => rfl
  | ok output => exact absurd rfl h

theorem Exit.output_ofStop {stop : Stop} (h : (ofStop stop).status ≠ 0) :
    (ofStop stop).output = [] := by
  cases stop with
  | help text => exact absurd rfl h
  | usage error => rfl

/-- A run that has a task ends as its command does, and sends what the command sends. -/
theorem run_of_prepared {environment : Environment} {words : List String} {task : Task}
    (h : prepare environment words = .ok task) :
    let command := runCommand ⟨task.connection.defaultNamespace, environment.now⟩ task.command
    ((run environment words).run server pause s).1 = .ofResult (command.run server pause s).1 ∧
      (run environment words).transcript server pause s = command.transcript server pause s := by
  intro command
  have hrun : run environment words = command.bind fun result => .done (.ofResult result) := by
    simp only [run, h]
    rfl
  rw [hrun, Dialogue.run_bind, Dialogue.transcript_bind, Dialogue.transcript_done, List.append_nil]
  exact ⟨rfl, rfl⟩

/-- For every environment and command line, and whatever the server answers to the requests so far:
a run that fails leaves the standard output empty; words that are no command line stop the program;
and a command leaves there, with status zero, what `Writes` says of the run and nothing else. -/
theorem run_writes_results (environment : Environment) (words : List String) :
    let exit := ((run environment words).run server pause s).1
    let sent := (run environment words).transcript server pause s
    (exit.status ≠ 0 → exit.output = []) ∧
    match Arguments.parse words with
    | .error (.help text) => exit = ⟨0, lineBytes text, []⟩
    | .error (.usage error) =>
      exit = ⟨1, [], lineBytes (error.message ++ "\nRun renewctl --help for more information.")⟩
    | .ok arguments => ∀ output, exit.status = 0 ∧ exit.output = output ↔ ∃ connection,
        prepare environment words = .ok ⟨connection, arguments.command⟩ ∧
        Writes ⟨connection.defaultNamespace, environment.now⟩ server pause s sent output
          arguments.command := by
  intro exit sent
  have hpreparation := preparation environment words
  cases hprepare : prepare environment words with
  | error stopped =>
    have hexit : exit = stopped := by
      simp only [exit, run, hprepare]
      rfl
    rw [hprepare] at hpreparation
    rw [hexit]
    cases hpreparation with
    | @stopped stop hwords =>
      rw [hwords]
      refine ⟨Exit.output_ofStop, ?_⟩
      cases stop <;> simp only [Exit.ofStop, Exit.failure, line_eq]
    | refused message hwords =>
      rw [hwords]
      refine ⟨fun _ => rfl, fun output => ?_⟩
      simp [Exit.failure]
  | ok task =>
    obtain ⟨hexit, hsent⟩ := run_of_prepared server pause s hprepare
    rw [hprepare] at hpreparation
    cases hpreparation with
    | ready connection hwords =>
      rw [hwords]
      simp only [exit, sent, hexit, hsent]
      refine ⟨Exit.output_ofResult, fun output => ?_⟩
      rw [Exit.ofResult_succeeds_iff, runCommand_ok_iff]
      simp

end CertRenewal.Program
