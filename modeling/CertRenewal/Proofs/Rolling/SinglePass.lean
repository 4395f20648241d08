import CertRenewal.Proofs.Dialogue
import CertRenewal.Proofs.Machines.ControlPlane
import CertRenewal.Renewal.Rolling
import Mathlib.Data.List.Basic

/-!
# A rolling update is a single pass

`Pass` lists the ways in which a rolling update can go, with all of its exchanges and its result:
one for each step at which it may end, and one in which nothing fails. `nextQuestion` gives the same
from the inside: which question the exchanges made so far lead to, if any.

`renew_is_single_pass` is the main statement. Nothing is assumed about the client, so that an answer
may depend on everything that was asked before.
-/

namespace CertRenewal.Renewal.Rolling

open CertRenewal.Cluster (Resource)
open CertRenewal.Machines (Call ControlPlane TemplateReference cloneTemplate)
open CertRenewal.Machines.ControlPlane (Describes ofResource_eq_ok_iff)

/-! ## What an update can be -/

/-- The questions of an update that runs to its end: of the control plane that is read from the
first object listed, with the template that is found and the name that its copy gets. -/
def questions (plane : ControlPlane) (template : Resource) (clone : String) : List Call :=
  [.listControlPlanes, .getTemplate plane.template,
    .createTemplate plane.template (cloneTemplate template),
    .patchControlPlane plane
      [.replace ["spec", "infrastructureTemplate", "name"] (.string clone)]]

inductive Pass : List (Exchange Call.Answer) → Except Error Summary → Prop where
  | listingFails (cause : Machines.Error) :
      Pass [⟨.listControlPlanes, .error cause⟩] (.error (.controlPlaneLookup cause))
  | nothingListed : Pass [⟨.listControlPlanes, .ok []⟩] (.error .controlPlaneNotFound)
  | unreadable {first : Resource} (others : List Resource) {cause : Machines.Error}
      (h : ControlPlane.ofResource first = .error cause) :
      Pass [⟨.listControlPlanes, .ok (first :: others)⟩] (.error (.controlPlaneLookup cause))
  | templateLookupFails {first : Resource} (others : List Resource) {plane : ControlPlane}
      (cause : Machines.Error) (h : Describes first plane) :
      Pass [⟨.listControlPlanes, .ok (first :: others)⟩,
          ⟨.getTemplate plane.template, .error cause⟩]
        (.error (.templateLookup plane.name cause))
  | creationFails {first : Resource} (others : List Resource) {plane : ControlPlane}
      (template : Resource) (cause : Machines.Error) (h : Describes first plane) :
      Pass [⟨.listControlPlanes, .ok (first :: others)⟩,
          ⟨.getTemplate plane.template, .ok template⟩,
          ⟨.createTemplate plane.template (cloneTemplate template), .error cause⟩]
        (.error (.createTemplate plane.template cause))
  | cloneUnnamed {first : Resource} (others : List Resource) {plane : ControlPlane}
      (template : Resource) {created : Resource} (h : Describes first plane)
      (hname : created.metadata.name = none) :
      Pass [⟨.listControlPlanes, .ok (first :: others)⟩,
          ⟨.getTemplate plane.template, .ok template⟩,
          ⟨.createTemplate plane.template (cloneTemplate template), .ok created⟩]
        (.error (.cloneWithoutName plane.template))
  | patchFails {first : Resource} (others : List Resource) {plane : ControlPlane}
      (template : Resource) {created : Resource} {clone : String} (cause : Machines.Error)
      (h : Describes first plane) (hname : created.metadata.name = some clone) :
      Pass [⟨.listControlPlanes, .ok (first :: others)⟩,
          ⟨.getTemplate plane.template, .ok template⟩,
          ⟨.createTemplate plane.template (cloneTemplate template), .ok created⟩,
          ⟨.patchControlPlane plane
            [.replace ["spec", "infrastructureTemplate", "name"] (.string clone)], .error cause⟩]
        (.error (.patchControlPlane plane.name clone cause))
  | succeeds {first : Resource} (others : List Resource) {plane : ControlPlane}
      (template : Resource) {created : Resource} {clone : String} (h : Describes first plane)
      (hname : created.metadata.name = some clone) :
      Pass [⟨.listControlPlanes, .ok (first :: others)⟩,
          ⟨.getTemplate plane.template, .ok template⟩,
          ⟨.createTemplate plane.template (cloneTemplate template), .ok created⟩,
          ⟨.patchControlPlane plane
            [.replace ["spec", "infrastructureTemplate", "name"] (.string clone)], .ok ()⟩]
        (.ok ⟨plane.name, plane.namespace_, plane.template.name, clone⟩)

/-- The question that exchanges lead to. There is none when the last answer is an error or does not
have what the next question needs, and after the patch. -/
def nextQuestion : List (Exchange Call.Answer) → Option Call
  | [] => some .listControlPlanes
  | [⟨.listControlPlanes, .ok (first :: _)⟩] =>
    (ControlPlane.ofResource first).toOption.map fun plane => .getTemplate plane.template
  | [_, ⟨.getTemplate reference, .ok template⟩] =>
    some (.createTemplate reference (cloneTemplate template))
  | [⟨.listControlPlanes, .ok (first :: _)⟩, _, ⟨.createTemplate _ _, .ok created⟩] => do
    let plane ← (ControlPlane.ofResource first).toOption
    let clone ← created.metadata.name
    return .patchControlPlane plane (ControlPlane.templatePatch clone)
  | _ => none

/-- Exchanges each of which asks what those before it lead to. -/
inductive Asked : List (Exchange Call.Answer) → Prop where
  | nil : Asked []
  | snoc {before : List (Exchange Call.Answer)} {x : Exchange Call.Answer} (h : Asked before)
      (hx : nextQuestion before = some x.call) : Asked (before ++ [x])

/-! ## What follows an answer -/

def afterPatch (plane : ControlPlane) (clone : String) :
    Except Machines.Error Unit → Machines.Dialogue (Except Error Summary)
  | .error cause => .done (.error (.patchControlPlane plane.name clone cause))
  | .ok _ => .done (.ok ⟨plane.name, plane.namespace_, plane.template.name, clone⟩)

def afterCreation (plane : ControlPlane) :
    Except Machines.Error Resource → Machines.Dialogue (Except Error Summary)
  | .error cause => .done (.error (.createTemplate plane.template cause))
  | .ok created =>
    match created.metadata.name with
    | none => .done (.error (.cloneWithoutName plane.template))
    | some clone =>
      .ask (.patchControlPlane plane (ControlPlane.templatePatch clone)) (afterPatch plane clone)

def afterLookup (plane : ControlPlane) :
    Except Machines.Error Resource → Machines.Dialogue (Except Error Summary)
  | .error cause => .done (.error (.templateLookup plane.name cause))
  | .ok template =>
    .ask (.createTemplate plane.template (cloneTemplate template)) (afterCreation plane)

def afterReading (first : Resource) : Machines.Dialogue (Except Error Summary) :=
  match ControlPlane.ofResource first with
  | .error cause => .done (.error (.controlPlaneLookup cause))
  | .ok plane => .ask (.getTemplate plane.template) (afterLookup plane)

/-- What follows the listing: its first object alone decides. -/
def afterListing :
    Except Machines.Error (List Resource) → Machines.Dialogue (Except Error Summary)
  | .error cause => .done (.error (.controlPlaneLookup cause))
  | .ok [] => .done (.error .controlPlaneNotFound)
  | .ok (first :: _) => afterReading first

theorem pointAt_eq (plane : ControlPlane) (clone : String) :
    pointAt plane clone =
      .ask (.patchControlPlane plane (ControlPlane.templatePatch clone))
        (afterPatch plane clone) := by
  refine congrArg (Dialogue.ask _) (funext fun answer => ?_)
  cases answer <;> rfl

/-- The copy and the patch begin with the lookup of the template. -/
theorem createClone_andThen (plane : ControlPlane) :
    ((createClone plane).andThen fun clone => pointAt plane clone) =
      .ask (.getTemplate plane.template) (afterLookup plane) := by
  refine congrArg (Dialogue.ask _) (funext fun answer => ?_)
  cases answer with
  | error cause => rfl
  | ok template =>
    refine congrArg (Dialogue.ask _) (funext fun answer => ?_)
    cases answer with
    | error cause => rfl
    | ok created =>
      show Dialogue.andThen (match created.metadata.name with
        | none => Dialogue.done (.error (.cloneWithoutName plane.template))
        | some name => Dialogue.done (.ok name)) (pointAt plane) = afterCreation plane (.ok created)
      rw [afterCreation]
      cases created.metadata.name with
      | none => rfl
      | some clone => exact pointAt_eq plane clone

/-- An update begins with the listing, whatever the client is. -/
theorem renew_eq : renew = .ask .listControlPlanes afterListing := by
  refine congrArg (Dialogue.ask _) (funext fun answer => ?_)
  match answer with
  | .error cause => rfl
  | .ok [] => rfl
  | .ok (first :: others) =>
    show Dialogue.andThen (.done ((ControlPlane.ofResource first).mapError _)) _ =
      afterReading first
    rw [afterReading]
    cases ControlPlane.ofResource first with
    | error cause => rfl
    | ok plane => exact createClone_andThen plane

/-- What follows a listing does not list again. -/
theorem afterReading_within (first : Resource) :
    (afterReading first).Within (· ≠ .listControlPlanes) := by
  rw [afterReading]
  cases ControlPlane.ofResource first with
  | error cause => trivial
  | ok plane =>
    refine ⟨by simp, fun answer => ?_⟩
    match answer with
    | .error cause => trivial
    | .ok template =>
      refine ⟨by simp, fun answer => ?_⟩
      match answer with
      | .error cause => trivial
      | .ok created =>
        show (afterCreation plane (.ok created)).Within _
        rw [afterCreation]
        cases created.metadata.name with
        | none => trivial
        | some clone =>
          refine ⟨by simp, fun answer => ?_⟩
          match answer with
          | .error cause => trivial
          | .ok _ => trivial

/-! ## Every update is a pass -/

section

variable {σ : Type} (client : (c : Call) → σ → c.Answer × σ) (pause : Nat → σ → σ)
variable {first created : Resource} {plane : ControlPlane} {clone : String}

theorem pass_afterPatch (others : List Resource) (template : Resource)
    (h : Describes first plane) (hname : created.metadata.name = some clone)
    (answer : Except Machines.Error Unit) (s : σ) :
    Pass (⟨.listControlPlanes, .ok (first :: others)⟩ ::
        ⟨.getTemplate plane.template, .ok template⟩ ::
        ⟨.createTemplate plane.template (cloneTemplate template), .ok created⟩ ::
        ⟨.patchControlPlane plane (ControlPlane.templatePatch clone), answer⟩ ::
        (afterPatch plane clone answer).transcript client pause s)
      ((afterPatch plane clone answer).run client pause s).1 := by
  cases answer with
  | error cause => exact .patchFails others template cause h hname
  | ok _ => exact .succeeds others template h hname

theorem pass_afterCreation (others : List Resource) (template : Resource)
    (h : Describes first plane) (answer : Except Machines.Error Resource) (s : σ) :
    Pass (⟨.listControlPlanes, .ok (first :: others)⟩ ::
        ⟨.getTemplate plane.template, .ok template⟩ ::
        ⟨.createTemplate plane.template (cloneTemplate template), answer⟩ ::
        (afterCreation plane answer).transcript client pause s)
      ((afterCreation plane answer).run client pause s).1 := by
  cases answer with
  | error cause => exact .creationFails others template cause h
  | ok created =>
    rw [afterCreation]
    cases hname : created.metadata.name with
    | none => exact .cloneUnnamed others template h hname
    | some clone => exact pass_afterPatch client pause others template h hname _ _

theorem pass_afterLookup (others : List Resource) (h : Describes first plane)
    (answer : Except Machines.Error Resource) (s : σ) :
    Pass (⟨.listControlPlanes, .ok (first :: others)⟩ ::
        ⟨.getTemplate plane.template, answer⟩ ::
        (afterLookup plane answer).transcript client pause s)
      ((afterLookup plane answer).run client pause s).1 := by
  cases answer with
  | error cause => exact .templateLookupFails others cause h
  | ok template => exact pass_afterCreation client pause others template h _ _

/-- However the listing is answered, what follows it makes it one of the passes. -/
theorem pass_afterListing (answer : Except Machines.Error (List Resource)) (s : σ) :
    Pass (⟨.listControlPlanes, answer⟩ :: (afterListing answer).transcript client pause s)
      ((afterListing answer).run client pause s).1 := by
  match answer with
  | .error cause => exact .listingFails cause
  | .ok [] => exact .nothingListed
  | .ok (first :: others) =>
    rw [afterListing, afterReading]
    cases h : ControlPlane.ofResource first with
    | error cause => exact .unreadable others h
    | ok plane => exact pass_afterLookup client pause others (ofResource_eq_ok_iff.mp h) _ _

/-- However the client answers, an update goes in one of the ways. -/
theorem pass_renew (s : σ) :
    Pass (renew.transcript client pause s) (renew.run client pause s).1 := by
  rw [renew_eq]
  exact pass_afterListing client pause _ _

end

/-- An update whose four questions are answered ends with what it has done. -/
theorem run_renew_of_answers {σ : Type} {client : (c : Call) → σ → c.Answer × σ}
    (pause : Nat → σ → σ) {first template created : Resource} {others : List Resource}
    {plane : ControlPlane} {clone : String} {s s₁ s₂ s₃ s₄ : σ}
    (hlisting : client .listControlPlanes s = (.ok (first :: others), s₁))
    (hplane : Describes first plane)
    (hlookup : client (.getTemplate plane.template) s₁ = (.ok template, s₂))
    (hcreation : client (.createTemplate plane.template (cloneTemplate template)) s₂ =
      (.ok created, s₃))
    (hname : created.metadata.name = some clone)
    (hpatch : client (.patchControlPlane plane (ControlPlane.templatePatch clone)) s₃ =
      (.ok (), s₄)) :
    renew.run client pause s =
      (.ok ⟨plane.name, plane.namespace_, plane.template.name, clone⟩, s₄) := by
  rw [renew_eq]
  show (afterListing (client .listControlPlanes s).1).run client pause
    (client .listControlPlanes s).2 = _
  rw [hlisting, afterListing, afterReading, ofResource_eq_ok_iff.mpr hplane]
  show (afterLookup plane (client (.getTemplate plane.template) s₁).1).run client pause
    (client (.getTemplate plane.template) s₁).2 = _
  rw [hlookup]
  show (afterCreation plane
      (client (.createTemplate plane.template (cloneTemplate template)) s₂).1).run client pause
    (client (.createTemplate plane.template (cloneTemplate template)) s₂).2 = _
  rw [hcreation, afterCreation, hname]
  show (afterPatch plane clone
      (client (.patchControlPlane plane (ControlPlane.templatePatch clone)) s₃).1).run client pause
    (client (.patchControlPlane plane (ControlPlane.templatePatch clone)) s₃).2 = _
  rw [hpatch]
  rfl

/-! ## The listing -/

section

variable {σ : Type} (client : (c : Call) → σ → c.Answer × σ) (pause : Nat → σ → σ)

def relisted (objects : List Resource) : (c : Call) → σ → c.Answer × σ
  | .listControlPlanes, s => (.ok objects, (client .listControlPlanes s).2)
  | .getTemplate reference, s => client (.getTemplate reference) s
  | .createTemplate reference template, s => client (.createTemplate reference template) s
  | .patchControlPlane plane patch, s => client (.patchControlPlane plane patch) s

/-- Only the listing is answered in another way. -/
theorem relisted_of_ne (objects : List Resource) {c : Call} (h : c ≠ .listControlPlanes) :
    relisted client objects c = client c := by
  cases c with
  | listControlPlanes => exact absurd rfl h
  | getTemplate reference => rfl
  | createTemplate reference template => rfl
  | patchControlPlane plane patch => rfl

/-- An update goes on from the first object of a listing. -/
theorem run_relisted (first : Resource) (others : List Resource) (s : σ) :
    renew.run (relisted client (first :: others)) pause s =
      (afterReading first).run client pause (client .listControlPlanes s).2 := by
  rw [renew_eq]
  exact Dialogue.run_congr pause (fun c hc => relisted_of_ne client (first :: others) hc)
    (afterReading_within first) _

theorem calls_relisted (first : Resource) (others : List Resource) (s : σ) :
    (renew.transcript (relisted client (first :: others)) pause s).map (·.call) =
      .listControlPlanes ::
        ((afterReading first).transcript client pause (client .listControlPlanes s).2).map
          (·.call) := by
  rw [renew_eq, ← Dialogue.transcript_congr pause
    (fun c hc => relisted_of_ne client (first :: others) hc) (afterReading_within first)]
  rfl

end

/-! ## What every pass has -/

section

variable {first template created : Resource} {plane : ControlPlane} {clone : String}

/-- The listing is asked for first. -/
theorem asked_listing (answer : Except Machines.Error (List Resource)) :
    Asked [⟨.listControlPlanes, answer⟩] := .snoc .nil rfl

theorem asked_lookup (others : List Resource) (h : Describes first plane)
    (answer : Except Machines.Error Resource) :
    Asked [⟨.listControlPlanes, .ok (first :: others)⟩, ⟨.getTemplate plane.template, answer⟩] := by
  refine .snoc (asked_listing _) ?_
  simp [nextQuestion, ofResource_eq_ok_iff.mpr h, Except.toOption]

theorem asked_creation (others : List Resource) (h : Describes first plane)
    (answer : Except Machines.Error Resource) :
    Asked [⟨.listControlPlanes, .ok (first :: others)⟩,
      ⟨.getTemplate plane.template, .ok template⟩,
      ⟨.createTemplate plane.template (cloneTemplate template), answer⟩] :=
  .snoc (asked_lookup others h _) rfl

theorem asked_patch (others : List Resource) (h : Describes first plane)
    (hname : created.metadata.name = some clone) (answer : Except Machines.Error Unit) :
    Asked [⟨.listControlPlanes, .ok (first :: others)⟩,
      ⟨.getTemplate plane.template, .ok template⟩,
      ⟨.createTemplate plane.template (cloneTemplate template), .ok created⟩,
      ⟨.patchControlPlane plane (ControlPlane.templatePatch clone), answer⟩] := by
  refine .snoc (asked_creation others h _) ?_
  simp [nextQuestion, ofResource_eq_ok_iff.mpr h, Except.toOption, hname]

end

variable {exchanges : List (Exchange Call.Answer)} {result : Except Error Summary}

/-- Every question of a pass is the one that the exchanges before it lead to. -/
theorem Pass.asked (h : Pass exchanges result) : Asked exchanges := by
  cases h with
  | listingFails cause => exact asked_listing _
  | nothingListed => exact asked_listing _
  | unreadable others h => exact asked_listing _
  | templateLookupFails others cause h => exact asked_lookup others h _
  | creationFails others template cause h => exact asked_creation others h _
  | cloneUnnamed others template h hname => exact asked_creation others h _
  | patchFails others template cause h hname => exact asked_patch others h hname _
  | succeeds others template h hname => exact asked_patch others h hname _

/-- A pass ends only where no question follows. -/
theorem Pass.ended (h : Pass exchanges result) : nextQuestion exchanges = none := by
  cases h with
  | listingFails cause => rfl
  | nothingListed => rfl
  | unreadable others h => simp [nextQuestion, h, Except.toOption]
  | templateLookupFails others cause h => rfl
  | creationFails others template cause h => rfl
  | cloneUnnamed others template h hname => simp [nextQuestion, hname]
  | patchFails others template cause h hname => rfl
  | succeeds others template h hname => rfl

/-- The questions of a pass are the first ones of those of an update that runs to its end. What such
an update would be told later is not known when the pass ends early, and may be anything. -/
theorem Pass.questions_prefix (h : Pass exchanges result) :
    ∃ plane template clone, exchanges.map (·.call) <+: questions plane template clone := by
  let nowhere : ControlPlane := ⟨"", "", ⟨none, "", "", none⟩⟩
  let nothing : Resource := ⟨none, .empty, []⟩
  cases h with
  | listingFails cause => exact ⟨nowhere, nothing, "", _, rfl⟩
  | nothingListed => exact ⟨nowhere, nothing, "", _, rfl⟩
  | unreadable others h => exact ⟨nowhere, nothing, "", _, rfl⟩
  | @templateLookupFails first others plane cause h => exact ⟨plane, nothing, "", _, rfl⟩
  | @creationFails first others plane template cause h => exact ⟨plane, template, "", _, rfl⟩
  | @cloneUnnamed first others plane template created h hname =>
    exact ⟨plane, template, "", _, rfl⟩
  | @patchFails first others plane template created clone cause h hname =>
    exact ⟨plane, template, clone, _, rfl⟩
  | @succeeds first others plane template created clone h hname =>
    exact ⟨plane, template, clone, _, rfl⟩

/-- No question is repeated. -/
theorem Pass.nodup (h : Pass exchanges result) : (exchanges.map (·.call)).Nodup := by
  obtain ⟨plane, template, clone, hprefix⟩ := h.questions_prefix
  exact hprefix.sublist.nodup (by simp [questions])

/-- Whether a question was answered, and not with an error. -/
def succeeded : Exchange Call.Answer → Bool
  | ⟨.listControlPlanes, .ok _⟩ => true
  | ⟨.getTemplate _, .ok _⟩ => true
  | ⟨.createTemplate _ _, .ok _⟩ => true
  | ⟨.patchControlPlane _ _, .ok _⟩ => true
  | _ => false

/-- A pass succeeds exactly when four questions were asked and all have been answered. -/
theorem Pass.ok_iff (h : Pass exchanges result) :
    (∃ summary, result = .ok summary) ↔
      exchanges.length = 4 ∧ ∀ x ∈ exchanges, succeeded x = true := by
  cases h with
  | listingFails cause => simp
  | nothingListed => simp
  | unreadable others h => simp
  | templateLookupFails others cause h => simp
  | creationFails others template cause h => simp
  | cloneUnnamed others template h hname => simp
  | patchFails others template cause h hname => simp [succeeded]
  | succeeds others template h hname => simp [succeeded]

/-- For every client, a rolling update goes in one of the ways that `Pass` lists. Its questions are
the first ones of a fixed sequence of four, each asked once and exactly when those before it were
answered with what it needs. It succeeds exactly when all four are answered, and objects behind the
first one of a listing change neither its questions nor its result. -/
theorem renew_is_single_pass {σ : Type} (client : (c : Call) → σ → c.Answer × σ)
    (pause : Nat → σ → σ) (s : σ) :
    Pass (renew.transcript client pause s) (renew.run client pause s).1 ∧
    (∃ plane template clone,
      (renew.transcript client pause s).map (·.call) <+: questions plane template clone) ∧
    Asked (renew.transcript client pause s) ∧
    nextQuestion (renew.transcript client pause s) = none ∧
    ((renew.transcript client pause s).map (·.call)).Nodup ∧
    ((∃ summary, (renew.run client pause s).1 = .ok summary) ↔
      (renew.transcript client pause s).length = 4 ∧
        ∀ x ∈ renew.transcript client pause s, succeeded x = true) ∧
    ∀ first others others',
      renew.run (relisted client (first :: others)) pause s =
        renew.run (relisted client (first :: others')) pause s ∧
      (renew.transcript (relisted client (first :: others)) pause s).map (·.call) =
        (renew.transcript (relisted client (first :: others')) pause s).map (·.call) := by
  have hpass := pass_renew client pause s
  refine ⟨hpass, hpass.questions_prefix, hpass.asked, hpass.ended, hpass.nodup, hpass.ok_iff, ?_⟩
  intro first others others'
  rw [run_relisted, run_relisted, calls_relisted, calls_relisted]
  exact ⟨rfl, rfl⟩

end CertRenewal.Renewal.Rolling
