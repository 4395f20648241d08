import CertRenewal.Program.Run
import CertRenewal.Proofs.Faults
import CertRenewal.Proofs.InPlace.Answers
import CertRenewal.Proofs.Rolling.SinglePass
import CertRenewal.Proofs.Server.Scope
import CertRenewal.Proofs.Strategy
import CertRenewal.Proofs.Tokens.Course

/-!
# What each command may do to the cluster

`Confined` says of the exchanges with a server what a command may send: a check only reads, a
rotation also deletes secrets and pods of its namespace, an in-place renewal also creates
maintenance pods, and a rolling update also creates one object and then patches the control plane
that is listed first. `run_is_confined` is the main statement, for every command line, environment
and server.

It is proved in layers. What each part of the library asks is allowed, whatever it is told
(`check_within`, `rotate_within`, `renew_within`); what answers an allowed question sends only
allowed requests, which is `Proofs.Server.Scope`; and `Within.interpret` puts the two together. A
rolling update is followed from its last question back to its first, since its requests must be in
order (`every_afterPatch` to `every_renew`).

A namespace is written into the path as it is, so that one with a number sign or a question mark
leaves a path that lies elsewhere. `deletes_outside` is such a run.
-/

namespace CertRenewal

open CertRenewal.Dialogue (Within Every)

/-! ## What is asked -/

/-- Polling asks what its check asks. -/
theorem Polling.pollFrom_within {Call : Type} {Answer : Call → Type} {α : Type}
    {P : Call → Prop} {check : Dialogue Call Answer (Check α)} (h : check.Within P)
    (interval made further : Nat) : (pollFrom interval check made further).Within P := by
  induction further generalizing made with
  | zero =>
    refine h.bind fun found => ?_
    cases found <;> trivial
  | succ further ih =>
    refine h.bind fun found => ?_
    cases found with
    | ready value => trivial
    | hopeless => trivial
    | notReady => exact ih (made + 1)
    | failed => exact ih (made + 1)

namespace Expiry

/-- A check deletes nothing. -/
theorem check_within (d : Deadline) : (check d).Within (·.isDeletion = false) := by
  refine Within.andThen ⟨rfl, fun answer => ?_⟩ fun tls =>
    Within.andThen ⟨rfl, fun answer => ?_⟩ fun kubeconfigs =>
      Within.andThen ⟨rfl, fun answer => ?_⟩ fun nodes => trivial
  all_goals cases answer <;> trivial

end Expiry

namespace Tokens

/-- A question that asks for no deletion outside a namespace. -/
def AsksIn (namespace_ : String) : Inventory.Call → Prop
  | .deleteSecret other _ | .deletePod other _ => other = namespace_
  | .listSecrets _ | .getSecret _ _ | .listPods _ | .listNodes => True

variable (namespace_ : String)

theorem tokenNames_within (name? : Option String) :
    (tokenNames namespace_ name?).Within (AsksIn namespace_) := by
  cases name? with
  | some name =>
    refine ⟨trivial, fun answer => ?_⟩
    cases answer <;> trivial
  | none =>
    refine ⟨trivial, fun answer => ?_⟩
    match answer with
    | .error cause => trivial
    | .ok [] => trivial
    | .ok (first :: others) => trivial

theorem deletePods_within (names : List String) :
    (deletePods namespace_ names).Within (AsksIn namespace_) := by
  induction names with
  | nil => trivial
  | cons name rest ih =>
    refine ⟨rfl, fun answer => ?_⟩
    cases answer with
    | error cause => trivial
    | ok _ => exact ih.andThen fun _ => trivial

theorem rotateOne_within (secret : String) :
    (rotateOne namespace_ secret).Within (AsksIn namespace_) := by
  refine ⟨rfl, fun answer => ?_⟩
  cases answer with
  | error cause => trivial
  | ok _ =>
    refine ⟨trivial, fun answer => ?_⟩
    cases answer with
    | error cause => trivial
    | ok pods => exact (deletePods_within namespace_ _).andThen fun _ => trivial

/-- A rotation deletes nothing outside its namespace. -/
theorem rotateAll_within (names : List String) :
    (rotateAll namespace_ names).Within (AsksIn namespace_) := by
  induction names with
  | nil => trivial
  | cons name rest ih =>
    exact (rotateOne_within namespace_ name).andThen fun _ => ih.andThen fun _ => trivial

/-- A rotation asks for no deletion outside its namespace. -/
theorem rotate_within (name? : Option String) :
    (rotate namespace_ name?).Within (AsksIn namespace_) :=
  (tokenNames_within namespace_ name?).andThen (rotateAll_within namespace_)

end Tokens

namespace Renewal.InPlace

/-- A question that asks for no pod outside the namespace of maintenance pods. -/
def AsksForPod (c : Maintenance.Call) : Prop :=
  ∀ node pod, c = .createPod node pod → pod.metadata.namespace_ = some Maintenance.podNamespace

theorem checkPod_within (namespace_ pod : String) :
    (checkPod namespace_ pod).Within AsksForPod := by
  rw [checkPod_eq]
  exact ⟨fun _ _ h => (nomatch h), fun _ => trivial⟩

theorem checkNode_within (node : String) : (checkNode node).Within AsksForPod := by
  rw [checkNode_eq]
  exact ⟨fun _ _ h => (nomatch h), fun _ => trivial⟩

variable (policy : Polling.Policy) (image : Maintenance.Image) (threshold : String)

theorem createPod_within (node : Maintenance.ControlPlaneNode) :
    (createPod image threshold node).Within AsksForPod := by
  rw [createPod_eq]
  refine ⟨?_, fun _ => trivial⟩
  rintro node' pod h
  cases h
  rfl

theorem renewNode_within (node : Maintenance.ControlPlaneNode) :
    (renewNode policy image threshold node).Within AsksForPod := by
  refine (createPod_within image threshold node).andThen fun (namespace_, pod) => ?_
  have hpod := Polling.pollFrom_within (checkPod_within namespace_ pod) policy.interval 0
    (policy.budget - 1)
  have hnode := Polling.pollFrom_within (checkNode_within node.name) policy.interval 0
    (policy.budget - 1)
  exact (hpod.mapError _).andThen fun _ => hnode.mapError _

/-- A renewal in place looks at no pod outside the namespace of maintenance pods. -/
theorem renewNodes_within (nodes : List Maintenance.ControlPlaneNode) :
    (renewNodes policy image threshold nodes).Within AsksForPod := by
  induction nodes with
  | nil => trivial
  | cons node rest ih =>
    exact (renewNode_within policy image threshold node).andThen fun _ =>
      ih.andThen fun _ => trivial

/-- An in-place renewal asks for no pod outside the namespace of maintenance pods. -/
theorem renew_within : (renew policy image threshold).Within AsksForPod := by
  refine ⟨fun _ _ h => (nomatch h), fun answer => ?_⟩
  match answer with
  | .error cause => trivial
  | .ok [] => trivial
  | .ok (node :: rest) => exact renewNodes_within policy image threshold (node :: rest)

end Renewal.InPlace

/-! ## What is sent -/

namespace Program

-- Whether a target is an address is decided by its characters; unfolding it says nothing here.
attribute [local irreducible] Server.Address.ofText

open CertRenewal.Cluster (Resource)
open CertRenewal.CommandLine (Arguments CheckExpiration Command RenewCerts ResetToken)
open CertRenewal.Server (Collection CreatesPod DeletesAt IsPlain Method Patches Reads Request
  Response)

abbrev Exchanged := Exchange fun _ : Request => Response

/-- The methods of the requests that may change something, in order. -/
def changes (xs : List Exchanged) : List Method :=
  (xs.map (·.call.method)).filter (· ≠ .get)

theorem changes_append (xs ys : List Exchanged) :
    changes (xs ++ ys) = changes xs ++ changes ys := by
  rw [changes, changes, changes, List.map_append, List.filter_append]

/-- Requests that only read change nothing. -/
theorem changes_of_reads {xs : List Exchanged} (h : ∀ x ∈ xs, Reads x.call) : changes xs = [] := by
  rw [changes, List.filter_eq_nil_iff, List.forall_mem_map]
  intro x hx
  rw [h x hx]
  decide

/-! ### A rolling update -/

/-- What a rolling update sends from some question on: changes in the order of some methods, and
patches of one control plane only. -/
structure Steers (plane : Machines.ControlPlane) (methods : List Method) (xs : List Exchanged) :
    Prop where
  changes : changes xs <+: methods
  aimed : ∀ x ∈ xs, x.call.method = .patch → Patches plane.namespace_ plane.name x.call

namespace Steers

variable {plane : Machines.ControlPlane} {methods : List Method} {xs ys : List Exchanged}

theorem nil : Steers plane methods [] := ⟨List.nil_prefix, List.forall_mem_nil _⟩

/-- What only reads does not count. -/
theorem after_reads (hxs : ∀ x ∈ xs, Reads x.call) (hys : Steers plane methods ys) :
    Steers plane methods (xs ++ ys) := by
  refine ⟨?_, List.forall_mem_append.mpr ⟨fun x hx hpatch => ?_, hys.aimed⟩⟩
  · rw [changes_append, changes_of_reads hxs, List.nil_append]
    exact hys.changes
  · rw [hxs x hx] at hpatch
    cases hpatch

/-- A creation comes before what follows it. -/
theorem after_post {r : Request} (response : Response) (hr : r.method = .post)
    (hys : Steers plane methods ys) :
    Steers plane (.post :: methods) (⟨r, response⟩ :: ys) := by
  refine ⟨?_, List.forall_mem_cons.mpr ⟨fun hpatch => ?_, hys.aimed⟩⟩
  · rw [Program.changes, List.map_cons, hr, List.filter_cons_of_pos (by decide)]
    exact List.cons_prefix_cons.mpr ⟨rfl, hys.changes⟩
  · rw [hr] at hpatch
    cases hpatch

theorem patch {r : Request} (response : Response) (hr : Patches plane.namespace_ plane.name r) :
    Steers plane [.patch] [⟨r, response⟩] := by
  refine ⟨?_, List.forall_mem_singleton.mpr fun _ => hr⟩
  rw [Program.changes, List.map_singleton, hr.method]
  exact List.prefix_rfl

end Steers

section

open CertRenewal.Renewal.Rolling
open CertRenewal.Server (machines)

variable {plane : Machines.ControlPlane}

/-- The patch is the last change of an update. -/
theorem every_afterPatch (clone : String) (patch : Json.Patch) :
    ((Dialogue.ask (.patchControlPlane plane patch) (afterPatch plane clone)).interpret
      machines).Every fun xs _ => Steers plane [.patch] xs := by
  refine Every.bind (Server.every_patchControlPlane plane patch) fun xs v hxs => ?_
  have hdone : ∀ answer, ((afterPatch plane clone answer).interpret machines).Every
      fun ys _ => ys = [] := by
    intro answer
    cases answer <;> rfl
  refine Every.mono (hdone v) ?_
  rintro _ _ rfl
  rcases hxs with rfl | ⟨r, response, rfl, hr⟩
  · exact .nil
  · exact .patch response hr

theorem every_afterCreation (template : Resource) :
    ((Dialogue.ask (.createTemplate plane.template template) (afterCreation plane)).interpret
      machines).Every fun xs _ => Steers plane [.post, .patch] xs := by
  refine Every.bind (Server.every_createTemplate plane.template template) ?_
  rintro xs v (⟨rfl, cause, rfl⟩ | ⟨r, response, rfl, hr⟩)
  · exact Steers.nil
  · have hrest : ((afterCreation plane v).interpret machines).Every
        fun ys _ => Steers plane [.patch] ys := by
      match v with
      | .error cause => exact Steers.nil
      | .ok created =>
        rw [afterCreation]
        cases created.metadata.name with
        | none => exact Steers.nil
        | some clone => exact every_afterPatch clone _
    exact hrest.mono fun ys _ hys => hys.after_post response hr

/-- After the lookup a copy is created, and then the control plane is patched. -/
theorem every_afterLookup :
    ((Dialogue.ask (.getTemplate plane.template) (afterLookup plane)).interpret
      machines).Every fun xs _ => Steers plane [.post, .patch] xs := by
  refine Every.bind (Every.of_within (Server.getTemplate_within plane.template)) fun xs v hxs => ?_
  cases v with
  | error cause => exact Steers.nil.after_reads hxs
  | ok template => exact (every_afterCreation _).mono fun ys _ hys => hys.after_reads hxs

/-- A request patches the control plane that is listed first by the first request. -/
def PatchesFirst (xs : List Exchanged) (r : Request) : Prop :=
  ∃ response rest first others namespace_ name,
    xs = ⟨Server.controlPlaneListing, response⟩ :: rest ∧
      response.object (Collection.readList Resource.ofJson?) = .ok (first :: others) ∧
      first.metadata.namespace_ = some namespace_ ∧ first.metadata.name = some name ∧
      Patches namespace_ name r

/-- At most one request creates something, and behind it at most one patches the control plane that
is listed first. -/
structure SteersFirst (xs : List Exchanged) : Prop where
  changes : changes xs <+: [.post, .patch]
  aimed : ∀ x ∈ xs, x.call.method = .patch → PatchesFirst xs x.call

theorem Steers.first {response : Response} {first : Resource} {others : List Resource}
    {ys : List Exchanged} (hys : Steers plane [.post, .patch] ys)
    (hplane : Machines.ControlPlane.Describes first plane)
    (hlisted : response.object (Collection.readList Resource.ofJson?) = .ok (first :: others)) :
    SteersFirst (⟨Server.controlPlaneListing, response⟩ :: ys) := by
  have hall : Steers plane _ ([⟨Server.controlPlaneListing, response⟩] ++ ys) :=
    hys.after_reads (List.forall_mem_singleton.mpr rfl)
  exact ⟨hall.changes, fun x hx hpatch => ⟨response, ys, first, others, _, _, rfl, hlisted,
    hplane.namespace_, hplane.name, hall.aimed x hx hpatch⟩⟩

/-- A rolling update that sends nothing. -/
theorem SteersFirst.nil : SteersFirst [] := ⟨List.nil_prefix, List.forall_mem_nil _⟩

/-- A rolling update that sends nothing but the listing. -/
theorem SteersFirst.listing (response : Response) :
    SteersFirst [⟨Server.controlPlaneListing, response⟩] :=
  ⟨List.nil_prefix, List.forall_mem_singleton.mpr fun hpatch => by cases hpatch⟩

/-- An update changes the control plane that is listed first, if it changes any. -/
theorem every_renew : (renew.interpret machines).Every fun xs _ => SteersFirst xs := by
  rw [renew_eq]
  refine Every.bind Server.every_listControlPlanes ?_
  rintro _ v ⟨response, rfl, hlisted⟩
  match v, hlisted with
  | .error cause, _ => exact SteersFirst.listing response
  | .ok [], _ => exact SteersFirst.listing response
  | .ok (first :: others), hlisted =>
    -- All that follows is about the first object; the others are not looked at.
    rw [afterListing, afterReading]
    cases hplane : Machines.ControlPlane.ofResource first with
    | error cause => exact SteersFirst.listing response
    | ok plane =>
      have hdescribes := Machines.ControlPlane.ofResource_eq_ok_iff.mp hplane
      exact every_afterLookup.mono fun ys _ hys => hys.first hdescribes (hlisted _ rfl)

end

/-! ### Deletions in a namespace -/

structure DeletesIn (namespace_ : String) (r : Request) : Prop where
  aimed : ∃ kind name, (kind = "secrets" ∨ kind = "pods") ∧
    DeletesAt ("/api/v1/namespaces/" ++ namespace_ ++ "/" ++ kind ++ "/" ++ name) r
  inside : IsPlain namespace_ →
    ("/api/v1/namespaces/" ++ namespace_ ++ "/secrets/").toList <+: r.path ∨
      ("/api/v1/namespaces/" ++ namespace_ ++ "/pods/").toList <+: r.path

/-- The path of what is deleted lies in the namespace, if nothing in its name ends a path. -/
theorem prefix_of_deletesAt {namespace_ kind place name : String} {r : Request}
    (hkind : "/" ++ kind ++ "/" = place) (hplace : IsPlain place) (hnamespace : IsPlain namespace_)
    (h : DeletesAt ("/api/v1/namespaces/" ++ namespace_ ++ "/" ++ kind ++ "/" ++ name) r) :
    ("/api/v1/namespaces/" ++ namespace_ ++ place).toList <+: r.path := by
  have hroot : IsPlain "/api/v1/namespaces/" := by decide
  have hpath : "/api/v1/namespaces/" ++ namespace_ ++ "/" ++ kind ++ "/" ++ name =
      "/api/v1/namespaces/" ++ namespace_ ++ place ++ name := by
    rw [← hkind]
    simp only [String.append_assoc]
  rw [h.path, hpath, Server.pathOf_append ((hroot.append hnamespace).append hplace)]
  exact List.prefix_append _ _

theorem reads_of_asked {c : Inventory.Call} {r : Request} (hc : c.isDeletion = false)
    (hr : Server.InventoryScope c r) : Reads r := by
  cases c with
  | deleteSecret other name => cases hc
  | deletePod other name => cases hc
  | listSecrets query => exact hr
  | getSecret other name => exact hr
  | listPods other => exact hr
  | listNodes => exact hr

/-- A deletion that is asked for in a namespace is sent to that namespace. -/
theorem deletesIn_of_asked {namespace_ : String} {c : Inventory.Call} {r : Request}
    (hc : Tokens.AsksIn namespace_ c) (hr : Server.InventoryScope c r) :
    Reads r ∨ DeletesIn namespace_ r := by
  cases c with
  | deleteSecret other name =>
    obtain rfl : other = namespace_ := hc
    have hplace : "/" ++ "secrets" ++ "/" = "/secrets/" := by decide
    exact .inr ⟨⟨_, name, .inl rfl, hr⟩, fun hplain =>
      .inl (prefix_of_deletesAt hplace (by decide) hplain hr)⟩
  | deletePod other name =>
    obtain rfl : other = namespace_ := hc
    have hplace : "/" ++ "pods" ++ "/" = "/pods/" := by decide
    exact .inr ⟨⟨_, name, .inr rfl, hr⟩, fun hplain =>
      .inr (prefix_of_deletesAt hplace (by decide) hplain hr)⟩
  | listSecrets query => exact .inl hr
  | getSecret other name => exact .inl hr
  | listPods other => exact .inl hr
  | listNodes => exact .inl hr

/-! ### Commands -/

/-- What a command may send. -/
def Confined : Command → List Exchanged → Prop
  | .checkExpiration _, xs => ∀ x ∈ xs, Reads x.call
  | .resetToken options, xs => ∀ x ∈ xs, Reads x.call ∨ DeletesIn options.namespace_ x.call
  | .renewCerts ⟨_, true, _⟩, xs => ∀ x ∈ xs, Reads x.call ∨ CreatesPod x.call
  | .renewCerts ⟨_, false, _⟩, xs => SteersFirst xs

section

variable (setting : Setting)

/-- A check sends nothing that could change the cluster. -/
theorem checkExpiration_within (options : CheckExpiration) :
    (checkExpiration setting options).Within Reads := by
  rw [checkExpiration]
  cases Expiry.Threshold.parse options.duration with
  | error cause => trivial
  | ok threshold =>
    refine Within.bind (Within.interpret (Expiry.check_within _) fun c hc => ?_) fun result => ?_
    · exact Within.mono (Server.inventory_within c) fun r => reads_of_asked hc
    · cases result <;> trivial

/-- A rotation deletes in its namespace, and changes nothing else. -/
theorem resetToken_within (options : ResetToken) :
    (resetToken options).Within fun r => Reads r ∨ DeletesIn options.namespace_ r := by
  refine Within.bind (Within.interpret (Tokens.rotate_within options.namespace_ _)
    fun c hc => ?_) fun result => ?_
  · exact Within.mono (Server.inventory_within c) fun r hr => deletesIn_of_asked hc hr
  · cases result <;> trivial

theorem renewInPlace_within (policy : Polling.Policy) (image : Maintenance.Image)
    (threshold : String) :
    (Renewal.renewInPlace policy image threshold).Within fun c =>
      ∃ asked, c = .maintenance asked ∧ Renewal.InPlace.AsksForPod asked := by
  rw [Renewal.renewInPlace_eq]
  refine Within.bind (Within.interpret (Renewal.InPlace.renew_within policy image threshold)
    fun c hc => ⟨⟨c, rfl, hc⟩, fun _ => trivial⟩) fun result => trivial

/-- What an in-place renewal sends is what answers its questions about maintenance pods. -/
theorem renewCerts_inPlace_within (threshold : String) (image : Option String) :
    (renewCerts setting ⟨threshold, true, image⟩).Within fun r => Reads r ∨ CreatesPod r := by
  refine Within.bind (Within.interpret (P := fun c =>
    ∃ asked, c = .maintenance asked ∧ Renewal.InPlace.AsksForPod asked) ?_ ?_) fun result => ?_
  · simp only [Renewal.renew]
    cases Renewal.validateThreshold threshold with
    | error cause => trivial
    | ok _ => exact renewInPlace_within ..
  · rintro _ ⟨c, rfl, hc⟩
    exact Server.maintenance_within setting.defaultNamespace c hc
  · cases result <;> trivial

/-- What a renewal by a rolling update sends is what answers its questions about machines. -/
theorem every_renewCerts_rolling (threshold : String) (image : Option String) :
    (renewCerts setting ⟨threshold, false, image⟩).Every fun xs _ => SteersFirst xs := by
  have hrenewal : ((Renewal.renew .standard (imageOf ⟨threshold, false, image⟩) (.ofFlag false)
      threshold).interpret (Server.renewal setting.defaultNamespace)).Every
        fun xs _ => SteersFirst xs := by
    simp only [Renewal.renew]
    cases Renewal.validateThreshold threshold with
    | error cause => exact SteersFirst.nil
    | ok _ =>
      have hmachines : (Renewal.Rolling.renew.interpret fun c => .call (.machines c)).interpret
          (Server.renewal setting.defaultNamespace) =
            Renewal.Rolling.renew.interpret Server.machines :=
        Dialogue.interpret_interpret_call Renewal.Call.machines _ _
      show (Renewal.renewRolling.interpret _).Every _
      rw [Renewal.renewRolling_eq, Dialogue.interpret_bind, hmachines]
      exact Every.bind_done every_renew
  refine Every.bind hrenewal fun xs result hxs => ?_
  have hdone : SteersFirst (xs ++ []) := by rwa [List.append_nil]
  cases result <;> exact hdone

/-- Whatever a command sends, it is confined. -/
theorem every_runCommand (command : Command) :
    (runCommand setting command).Every fun xs _ => Confined command xs := by
  match command with
  | .checkExpiration options => exact Every.of_within (checkExpiration_within setting options)
  | .resetToken options => exact Every.of_within (resetToken_within options)
  | .renewCerts ⟨threshold, true, image⟩ =>
    exact Every.of_within (renewCerts_inPlace_within setting threshold image)
  | .renewCerts ⟨threshold, false, image⟩ => exact every_renewCerts_rolling setting threshold image

end

/-! ### Runs -/

/-- A command that sends nothing is confined. -/
theorem Confined.nil (command : Command) : Confined command [] := by
  match command with
  | .checkExpiration options => exact List.forall_mem_nil _
  | .resetToken options => exact List.forall_mem_nil _
  | .renewCerts ⟨threshold, true, image⟩ => exact List.forall_mem_nil _
  | .renewCerts ⟨threshold, false, image⟩ => exact SteersFirst.nil

/-- The duration of a command is none. -/
inductive InvalidDuration : Command → Prop where
  | check {options : CheckExpiration} {cause : Text.Integer.Error}
      (h : Expiry.Threshold.parse options.duration = .error cause) :
      InvalidDuration (.checkExpiration options)
  | renewal {options : RenewCerts} {cause : Duration.Error}
      (h : Duration.parse options.expirationThreshold.toList = .error cause) :
      InvalidDuration (.renewCerts options)

def Refused (environment : Environment) (command : Command) : Prop :=
  (∃ cause, logSettings environment.machine = .error cause) ∨ InvalidDuration command

/-- The duration is read before anything is sent. -/
theorem every_runCommand_of_invalidDuration (setting : Setting) {command : Command}
    (h : InvalidDuration command) : (runCommand setting command).Every fun xs _ => xs = [] := by
  cases h with
  | check h =>
    rw [runCommand, checkExpiration, h]
    rfl
  | @renewal options cause h =>
    have hthreshold := Renewal.validateThreshold_eq_error_iff.mpr ⟨cause, h, rfl⟩
    simp only [runCommand, renewCerts, Renewal.renew, hthreshold]
    rfl

/-- What is to be done is the command of the arguments, and the settings of the log are valid. -/
theorem prepare_eq_ok {environment : Environment} {words : List String} {task : Task}
    (h : prepare environment words = .ok task) :
    ∃ arguments settings, Arguments.parse words = .ok arguments ∧
      logSettings environment.machine = .ok settings ∧ task.command = arguments.command := by
  obtain ⟨arguments, harguments, h⟩ := exists_of_bind_ok h
  obtain ⟨settings, hsettings, h⟩ := exists_of_bind_ok h
  obtain ⟨connection, -, h⟩ := exists_of_bind_ok h
  cases h
  exact ⟨arguments, settings, mapError_eq_ok_iff.mp harguments, mapError_eq_ok_iff.mp hsettings,
    rfl⟩

/-- What is sent is what the command sends. -/
theorem every_perform (environment : Environment) (task : Task)
    {P : List Exchanged → Prop} (h : (runCommand ⟨task.connection.defaultNamespace, environment.now⟩
      task.command).Every fun xs _ => P xs) :
    (perform environment task).Every fun xs _ => P xs :=
  Every.bind_done h

/-- For every environment and command line, and whatever the server answers to the requests so far:
words that are no command line send nothing, a command sends only what `Confined` allows it to send,
and a command that is refused sends nothing. -/
theorem run_is_confined {σ : Type} (environment : Environment) (words : List String)
    (server : Request → σ → Response × σ) (pause : Nat → σ → σ) (s : σ) :
    let sent := (run environment words).transcript server pause s
    match Arguments.parse words with
    | .error _ => sent = []
    | .ok arguments =>
      Confined arguments.command sent ∧ (Refused environment arguments.command → sent = []) := by
  intro sent
  cases hprepare : prepare environment words with
  | error exit =>
    -- The run is over before there is a server to send anything to.
    have hsent : sent = [] := by
      simp only [sent, run, hprepare]
      rfl
    rw [hsent]
    cases Arguments.parse words with
    | error stop => rfl
    | ok arguments => exact ⟨Confined.nil _, fun _ => rfl⟩
  | ok task =>
    obtain ⟨arguments, settings, hparse, hsettings, hcommand⟩ := prepare_eq_ok hprepare
    have hrun : run environment words = perform environment task := by
      simp only [run, hprepare]
    simp only [hparse, sent, hrun, ← hcommand]
    refine ⟨Every.run server pause (every_perform environment task (every_runCommand _ _)) s, ?_⟩
    rintro (⟨cause, hcause⟩ | hduration)
    · rw [hsettings] at hcause
      cases hcause
    · exact Every.run server pause
        (every_perform environment task (every_runCommand_of_invalidDuration _ hduration)) s

/-! ### A namespace that ends a path -/

/-- The surroundings of a program inside a cluster. -/
def insideEnvironment : Environment where
  machine := {
    lookup := fun name =>
      [("KUBERNETES_SERVICE_HOST", "10.0.0.1"), ("KUBERNETES_SERVICE_PORT", "443")].lookup name
    file := fun path =>
      if path = Access.namespacePath then .ok (Text.Utf8.encode "default".toList)
      else .error "missing" }
  now := Instant.ofSeconds 0

/-- A server to which every object is a secret with a token of a service account. -/
def secretsOnly (_ : Request) (s : Unit) : Response × Unit :=
  let secret : Json :=
    .object [("metadata", .object []), ("type", .string "kubernetes.io/service-account-token")]
  (⟨200, Text.Utf8.encode secret.render⟩, s)

/-- A number sign in the name of a namespace ends the path at which a rotation deletes, so that what
is deleted is in no namespace of that name. -/
theorem deletes_outside :
    let words := ["reset-sa-token", "--namespace", "a#b", "--secret-name", "s"]
    let sent := (run insideEnvironment words).transcript secretsOnly (fun _ s => s) ()
    (∃ arguments, Arguments.parse words = .ok arguments ∧
      arguments.command = .resetToken ⟨"a#b", some "s"⟩) ∧
    ∃ x ∈ sent, x.call.method = .delete ∧
      ¬ "/api/v1/namespaces/a#b/secrets/".toList <+: x.call.path ∧
      ¬ "/api/v1/namespaces/a#b/pods/".toList <+: x.call.path := by
  refine ⟨⟨⟨none, none, .resetToken ⟨"a#b", some "s"⟩⟩, ?_, rfl⟩, ?_⟩
  · decide +kernel
  · decide +kernel

end Program

end CertRenewal
