import CertRenewal.Machines.Store
import CertRenewal.Proofs.Machines.Registry
import CertRenewal.Proofs.Rolling.SinglePass

/-!
# A store that numbers its templates

`Store.numberedName` ends each name with the number of templates that were created before. What a
store keeps through a dialogue is `Grown`: the templates that were there stay in place, and those
that the dialogue creates stand behind them under consecutive numbers. One answer grows the store
(`grown_respond`), and so does any dialogue (`grown_run`).

`run_renew_numbered` is a rolling update of such a store.
-/

namespace CertRenewal

namespace Machines

open CertRenewal.Cluster (Resource)

def submitted : List (Exchange Call.Answer) → List Resource
  | [] => []
  | ⟨.createTemplate _ template, _⟩ :: more => template :: submitted more
  | ⟨.listControlPlanes, _⟩ :: more | ⟨.getTemplate _, _⟩ :: more
  | ⟨.patchControlPlane _ _, _⟩ :: more => submitted more

namespace Store

/-- A template gets another name when more have been created, since a number is read back from its
digits. -/
theorem numberedName_eq_iff (s s' : Store) (template : Resource) :
    s.numberedName template = s'.numberedName template ↔ s.created = s'.created := by
  rw [numberedName, numberedName, Option.some_inj, String.append_right_inj]
  refine ⟨fun h => ?_, congrArg toString⟩
  have hdigits : Nat.toDigits 10 s.created = Nat.toDigits 10 s'.created := by
    rw [← Nat.toList_repr, ← Nat.toList_repr]
    exact congrArg String.toList h
  calc
    s.created = Nat.ofDigitChars 10 (Nat.toDigits 10 s.created) 0 :=
      Nat.ofDigitChars_ten_toDigits.symm
    _ = Nat.ofDigitChars 10 (Nat.toDigits 10 s'.created) 0 := by rw [hdigits]
    _ = s'.created := Nat.ofDigitChars_ten_toDigits

/-- The store after some more templates have been counted. -/
def counted (s : Store) (more : Nat) : Store := { s with created := s.created + more }

def numbered (s : Store) (template : Resource) : Resource :=
  s.accepted (s.numberedName template) template

/-- What is kept of a template depends on the store by its count alone. -/
theorem numbered_congr {s s' : Store} (h : s.created = s'.created) (template : Resource) :
    s.numbered template = s'.numbered template := by
  rw [numbered, numbered, accepted, accepted, (numberedName_eq_iff s s' template).mpr h, h]

/-- A store has grown by templates that were submitted in this order. No control plane comes or
goes. -/
structure Grown (s s' : Store) (templates : List Resource) : Prop where
  created : s'.created = s.created + templates.length
  templates : s'.templates =
    s.templates ++ templates.mapIdx fun number template => (s.counted number).numbered template
  controlPlanes : s'.controlPlanes.length = s.controlPlanes.length

theorem Grown.refl (s : Store) : Grown s s [] :=
  ⟨rfl, (List.append_nil _).symm, rfl⟩

/-- The numbers go on where the first templates have ended. -/
theorem Grown.trans {s s' s'' : Store} {first more : List Resource} (h : Grown s s' first)
    (hmore : Grown s' s'' more) : Grown s s'' (first ++ more) := by
  refine ⟨?_, ?_, hmore.controlPlanes.trans h.controlPlanes⟩
  · rw [hmore.created, h.created, List.length_append, Nat.add_assoc]
  · rw [hmore.templates, h.templates, List.append_assoc, List.mapIdx_append]
    have hshift : (fun number template => (s'.counted number).numbered template) =
        fun number template => (s.counted (number + first.length)).numbered template := by
      funext number template
      refine numbered_congr ?_ template
      show s'.created + number = s.created + (number + first.length)
      rw [h.created]
      omega
    rw [hshift]

/-- One answer adds at most the template that it creates, under the next number. -/
theorem grown_respond (c : Call) (s : Store) :
    Grown s (respond numberedName c s).2 (submitted [⟨c, (respond numberedName c s).1⟩]) := by
  cases c with
  | listControlPlanes => exact Grown.refl s
  | getTemplate reference =>
    rw [respond]
    cases s.find? reference <;> exact Grown.refl s
  | createTemplate reference template => exact ⟨rfl, rfl, rfl⟩
  | patchControlPlane controlPlane patch =>
    exact ⟨rfl, (List.append_nil _).symm, List.length_map _⟩

theorem submitted_cons (x : Exchange Call.Answer) (more : List (Exchange Call.Answer)) :
    submitted (x :: more) = submitted [x] ++ submitted more := by
  obtain ⟨c, answer⟩ := x
  cases c <;> rfl

/-- A dialogue grows the store by what it creates, when nothing happens to the store in a wait. -/
theorem grown_run {α : Type} {pause : Nat → Store → Store} (hpause : ∀ ms s, pause ms s = s)
    (d : Machines.Dialogue α) (s : Store) :
    Grown s (d.run (respond numberedName) pause s).2
      (submitted (d.transcript (respond numberedName) pause s)) := by
  induction d generalizing s with
  | done v => exact Grown.refl s
  | ask c next ih =>
    rw [Dialogue.run_ask, Dialogue.transcript_ask, submitted_cons]
    exact (grown_respond c s).trans (ih _ _)
  | wait ms next ih =>
    rw [Dialogue.run_wait, Dialogue.transcript_wait, hpause]
    exact ih s

end Store

end Machines

namespace Renewal.Rolling

open CertRenewal.Cluster (Resource)
open CertRenewal.Machines (ControlPlane Store cloneTemplate)
open CertRenewal.Machines.ControlPlane (Describes templatePatch)

/-- An update of a store names the copy after the template and the number of templates that were
created before. -/
theorem run_renew_numbered (pause : Nat → Store → Store) {s : Store} {first template : Resource}
    {others : List Resource} {plane : ControlPlane} (hfirst : s.controlPlanes = first :: others)
    (hplane : Describes first plane) (hfound : s.find? plane.template = some template) :
    let clone := plane.template.name ++ "-" ++ toString s.created
    renew.run (Store.respond Store.numberedName) pause s =
      (.ok ⟨plane.name, plane.namespace_, plane.template.name, clone⟩,
        { controlPlanes := s.controlPlanes.map fun r =>
            if Store.isNamed plane.namespace_ plane.name r then
              Store.patched (templatePatch clone) r
            else r
          templates := s.templates ++ [s.numbered (cloneTemplate template)]
          created := s.created + 1 }) := by
  intro clone
  have hname : template.metadata.name = some plane.template.name :=
    (Machines.Registry.isNamed_iff.mp (List.find?_some hfound)).2
  have hclone : (s.numbered (cloneTemplate template)).metadata.name = some clone := by
    show some ((template.metadata.name.getD "" ++ "-") ++ toString s.created) = some clone
    rw [hname, Option.getD_some]
  have hlisting : Store.respond Store.numberedName .listControlPlanes s =
      (.ok (first :: others), s) := by
    rw [Store.respond, hfirst]
  have hlookup : Store.respond Store.numberedName (.getTemplate plane.template) s =
      (.ok template, s) := by
    rw [Store.respond, hfound]
  exact run_renew_of_answers pause hlisting hplane hlookup rfl hclone rfl

end Renewal.Rolling

end CertRenewal
