import CertRenewal.Proofs.Interleaving
import CertRenewal.Proofs.Rolling.Repetition

/-!
# The stages of a rolling update

An update that shares a cluster with others is at one of six stages: it has asked nothing, it has
read the control plane, the template, or the name of the copy, or it has ended. `Stage.dialogue` is
what is left to do. `Move` lists what one step of an update can be, with the exchange that it makes
and the registry that it leaves, and `step_of_stage` says that there is nothing else. Whatever
others do to the cluster between two steps, a step depends on the registry that it finds.
-/

namespace CertRenewal.Renewal.Rolling

open CertRenewal.Cluster (Resource)
open CertRenewal.Machines (Call ControlPlane Document Naming Registry cloneTemplate)
open CertRenewal.Machines.ControlPlane (Describes describes_of_ok ofResource_eq_ok_iff)
open CertRenewal.Machines.Registry (respond patchFirst)

/-- How far an update has come, with what it goes on with. -/
inductive Stage where
  | ready
  | planeRead (plane : ControlPlane)
  | templateRead (plane : ControlPlane) (template : Resource)
  | copied (plane : ControlPlane) (clone : String)
  | succeeded (plane : ControlPlane) (clone : String)
  | failed (error : Error)

namespace Stage

def dialogue : Stage → Machines.Dialogue (Except Error Summary)
  | ready => renew
  | planeRead plane => .ask (.getTemplate plane.template) (afterLookup plane)
  | templateRead plane template =>
    .ask (.createTemplate plane.template (cloneTemplate template)) (afterCreation plane)
  | copied plane clone =>
    .ask (.patchControlPlane plane (ControlPlane.templatePatch clone)) (afterPatch plane clone)
  | succeeded plane clone =>
    .done (.ok ⟨plane.name, plane.namespace_, plane.template.name, clone⟩)
  | failed error => .done (.error error)

def plane? : Stage → Option ControlPlane
  | planeRead plane | templateRead plane _ | copied plane _ | succeeded plane _ => some plane
  | ready | failed _ => none

def clone? : Stage → Option String
  | copied _ clone | succeeded _ clone => some clone
  | ready | planeRead _ | templateRead _ _ | failed _ => none

def isOver : Stage → Bool
  | succeeded _ _ | failed _ => true
  | ready | planeRead _ | templateRead _ _ | copied _ _ => false

/-- The names that the update has given to the template of its control plane: at most one, when the
control plane has been changed. -/
def given : Stage → List String
  | succeeded _ clone => [clone]
  | ready | planeRead _ | templateRead _ _ | copied _ _ | failed _ => []

/-- An update that has a result has succeeded. -/
theorem eq_succeeded_of_dialogue {s : Stage} {summary : Summary}
    (h : s.dialogue = .done (.ok summary)) :
    ∃ plane clone, s = succeeded plane clone ∧
      summary = ⟨plane.name, plane.namespace_, plane.template.name, clone⟩ := by
  cases s with
  | ready =>
    rw [dialogue, renew_eq] at h
    cases h
  | succeeded plane clone =>
    cases h
    exact ⟨plane, clone, rfl, rfl⟩
  | planeRead plane => cases h
  | templateRead plane template => cases h
  | copied plane clone => cases h
  | failed error => cases h

end Stage

/-- The name of the template that an exchange gives to a control plane, if it does. -/
def newName : Exchange Call.Answer → Option String
  | ⟨.patchControlPlane _ [.replace _ (.string name)], .ok _⟩ => some name
  | _ => none

def isListing : Exchange Call.Answer → Bool
  | ⟨.listControlPlanes, _⟩ => true
  | _ => false

/-- A step of an update in a registry: its exchange, the stage that it leads to, and the registry
that it leaves. -/
inductive Move (naming : Naming) (g : Registry) :
    Stage → Exchange Call.Answer → Stage → Registry → Prop where
  | list {d : Document} {rest : List Document} {plane : ControlPlane}
      (hfirst : g.controlPlanes = d :: rest) (h : Describes d.object plane) :
      Move naming g .ready ⟨.listControlPlanes, .ok (g.controlPlanes.map (·.object))⟩
        (.planeRead plane) g
  | lookUp {plane : ControlPlane} {template : Resource}
      (h : g.find? plane.template = some template) :
      Move naming g (.planeRead plane) ⟨.getTemplate plane.template, .ok template⟩
        (.templateRead plane template) g
  | create (plane : ControlPlane) (template : Resource) :
      Move naming g (.templateRead plane template)
        ⟨.createTemplate plane.template (cloneTemplate template),
          .ok (copyOf naming g plane template)⟩
        (.copied plane (copyName naming g plane template))
        (updated naming g plane template g.controlPlanes)
  | patch {plane : ControlPlane} {clone : String} {controlPlanes : List Document}
      (h : patchFirst plane.namespace_ plane.name (ControlPlane.templatePatch clone)
        g.controlPlanes = .ok controlPlanes) :
      Move naming g (.copied plane clone)
        ⟨.patchControlPlane plane (ControlPlane.templatePatch clone), .ok ()⟩
        (.succeeded plane clone) { g with controlPlanes := controlPlanes }
  | fail {s : Stage} {x : Exchange Call.Answer} (error : Error) (hs : s.isOver = false)
      (hname : newName x = none) (hlisting : s = .ready ↔ isListing x = true) :
      Move naming g s x (.failed error) g

variable {ι : Type} [DecidableEq ι]

abbrev Updates (ι : Type) := Interleaving ι Call.Answer (Except Error Summary) Registry

/-- What a step of one of several updates is: nothing when it has ended, and a move otherwise. -/
theorem step_of_stage (naming : Naming) (pause : Nat → Registry → Registry) {c : Updates ι} {i : ι}
    {s : Stage} (h : c.dialogues i = s.dialogue) :
    c.step (respond naming) pause i = c ∨
      ∃ x s' g', Move naming c.state s x s' g' ∧
        c.step (respond naming) pause i =
          ⟨Function.update c.dialogues i s'.dialogue, g', c.log ++ [(i, x)]⟩ := by
  cases s with
  | succeeded plane clone => exact .inl (Interleaving.step_done h)
  | failed error => exact .inl (Interleaving.step_done h)
  | ready =>
    right
    rw [Stage.dialogue, renew_eq] at h
    rw [Interleaving.step_ask h]
    cases hplanes : c.state.controlPlanes with
    | nil =>
      refine ⟨⟨.listControlPlanes, .ok (c.state.controlPlanes.map (·.object))⟩,
        .failed .controlPlaneNotFound, c.state, .fail _ rfl rfl (by simp [isListing]), ?_⟩
      simp [respond, hplanes, afterListing, Stage.dialogue]
    | cons d rest =>
      cases hread : ControlPlane.ofResource d.object with
      | error cause =>
        refine ⟨⟨.listControlPlanes, .ok (c.state.controlPlanes.map (·.object))⟩,
          .failed (.controlPlaneLookup cause), c.state, .fail _ rfl rfl (by simp [isListing]), ?_⟩
        simp [respond, hplanes, afterListing, afterReading, hread, Stage.dialogue]
      | ok plane =>
        refine ⟨_, .planeRead plane, _, .list hplanes (describes_of_ok hread), ?_⟩
        simp [respond, hplanes, afterListing, afterReading, hread, Stage.dialogue]
  | planeRead plane =>
    right
    rw [Interleaving.step_ask h]
    cases hfound : c.state.find? plane.template with
    | none =>
      let cause := (Call.getTemplate plane.template).failure (.notFound plane.template.name)
      refine ⟨⟨.getTemplate plane.template, .error cause⟩,
        .failed (.templateLookup plane.name cause), c.state,
        .fail _ rfl rfl (by simp [isListing]), ?_⟩
      simp [respond, hfound, afterLookup, Stage.dialogue, cause]
    | some template =>
      refine ⟨_, .templateRead plane template, _, .lookUp hfound, ?_⟩
      simp [respond, hfound, afterLookup, Stage.dialogue]
  | templateRead plane template =>
    right
    rw [Interleaving.step_ask h]
    exact ⟨_, _, _, .create plane template, rfl⟩
  | copied plane clone =>
    right
    rw [Interleaving.step_ask h]
    cases hpatched : patchFirst plane.namespace_ plane.name (ControlPlane.templatePatch clone)
        c.state.controlPlanes with
    | error failure =>
      let patch := Call.patchControlPlane plane (ControlPlane.templatePatch clone)
      let cause := patch.failure failure
      refine ⟨⟨patch, .error cause⟩, .failed (.patchControlPlane plane.name clone cause), c.state,
        .fail _ rfl rfl (by simp [isListing, patch]), ?_⟩
      simp [respond, hpatched, afterPatch, Stage.dialogue, patch, cause]
    | ok controlPlanes =>
      refine ⟨_, .succeeded plane clone, _, .patch hpatched, ?_⟩
      simp [respond, hpatched, afterPatch, Stage.dialogue]

end CertRenewal.Renewal.Rolling
