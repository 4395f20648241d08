import CertRenewal.Proofs.Machines.Registry
import CertRenewal.Proofs.Rolling.SinglePass

/-!
# Rolling updates, one after the other

What a cluster looks like after any number of rolling updates. The invariant is `Active`: the
reference of the first control plane is an object, and the template that it names is there.
`Active.renew` is one update, which keeps the invariant with a copy of the template in place of the
template, and `renewed_renewals` is a run of them.

`renewals_keep_cluster_consistent` is the main statement.
-/

namespace CertRenewal.Renewal.Rolling

open CertRenewal.Cluster (Resource ResourceKind)
open CertRenewal.Json (getAt? replaceAt)
open CertRenewal.Machines (Call ControlPlane Document Naming Registry cloneTemplate)
open CertRenewal.Machines.ControlPlane (Describes ofResource_eq_ok_iff reference? templateNamePath)
open CertRenewal.Machines.Registry (respond)

/-- Updates of a cluster, one after the other: their results, and the state that they leave. -/
def renewals {σ : Type} (client : (c : Call) → σ → c.Answer × σ) (pause : Nat → σ → σ) :
    Nat → σ → List (Except Error Summary) × σ
  | 0, s => ([], s)
  | k + 1, s =>
    let (result, s) := renew.run client pause s
    let (more, s) := renewals client pause k s
    (result :: more, s)

/-- A template is a copy of another: it has the names of its type, its body, and all of its metadata
but the name, the version and the start of the name, which is the name of the other and a dash. -/
structure IsCopy (original copy : Resource) : Prop where
  types : copy.types = original.types
  body : copy.body = original.body
  generateName : ∃ name, original.metadata.name = some name ∧
    copy.metadata.generateName = some (name ++ "-")
  namespace_ : copy.metadata.namespace_ = original.metadata.namespace_
  labels : copy.metadata.labels = original.metadata.labels
  annotations : copy.metadata.annotations = original.metadata.annotations
  others : copy.metadata.others = original.metadata.others

/-- A control plane comes first in a registry, its reference is an object, and the template that it
names is there. -/
structure Active (g : Registry) (d : Document) (rest : List Document) (plane : ControlPlane)
    (template : Resource) : Prop where
  first : g.controlPlanes = d :: rest
  described : Describes d.object plane
  reference : ∃ fields, reference? d.object = some (.object fields)
  found : g.find? plane.template = some template

/-! ## One update -/

/-- The copy that is stored is one of the template. -/
theorem isCopy_stored (naming : Naming) (g : Registry) (kind : ResourceKind) {template : Resource}
    {name : String} (hname : template.metadata.name = some name) :
    IsCopy template (g.stored naming kind (cloneTemplate template)) :=
  ⟨rfl, rfl, ⟨name, hname, by simp [Registry.stored, cloneTemplate, hname]⟩, rfl, rfl, rfl, rfl⟩

/-- What an update stores. -/
def copyOf (naming : Naming) (g : Registry) (plane : ControlPlane) (template : Resource) :
    Resource :=
  g.stored naming plane.template.resourceKind (cloneTemplate template)

def copyName (naming : Naming) (g : Registry) (plane : ControlPlane) (template : Resource) :
    String :=
  naming.name g plane.template.resourceKind (cloneTemplate template)

/-- The registry that an update leaves, with these control planes. -/
def updated (naming : Naming) (g : Registry) (plane : ControlPlane) (template : Resource)
    (controlPlanes : List Document) : Registry :=
  ⟨controlPlanes,
    g.templates ++ [(plane.template.resourceKind, copyOf naming g plane template)]⟩

variable {naming : Naming} {pause : Nat → Registry → Registry} {g : Registry} {d d' : Document}
variable {rest : List Document} {plane : ControlPlane} {template : Resource}

/-- An update of a registry whose control plane can be patched. -/
theorem run_renew (h : Active g d rest plane template)
    (hpatched : d.patched? (ControlPlane.templatePatch (copyName naming g plane template)) =
      some d') :
    renew.run (respond naming) pause g =
      (.ok ⟨plane.name, plane.namespace_, plane.template.name, copyName naming g plane template⟩,
        updated naming g plane template (d' :: rest)) := by
  have hlisting : respond naming .listControlPlanes g =
      (.ok (d.object :: rest.map (·.object)), g) := by
    rw [respond, h.first]
    rfl
  have hnamed : Machines.Store.isNamed plane.namespace_ plane.name d.object = true :=
    Registry.isNamed_iff.mpr ⟨h.described.namespace_, h.described.name⟩
  exact run_renew_of_answers pause hlisting h.described
    (Registry.respond_getTemplate naming h.found) rfl rfl
    (Registry.respond_patchControlPlane naming h.first hnamed hpatched)

/-- What one update of a cluster comes to: it succeeds, the copy is stored behind the templates that
were there, and the control plane is active with the copy. -/
theorem Active.renew (h : Active g d rest plane template) (naming : Naming)
    (pause : Nat → Registry → Registry) :
    ∃ d',
      renew.run (respond naming) pause g =
        (.ok ⟨plane.name, plane.namespace_, plane.template.name, copyName naming g plane template⟩,
          updated naming g plane template (d' :: rest)) ∧
      replaceAt (.string (copyName naming g plane template)) templateNamePath d.value =
        some d'.value ∧
      Active (updated naming g plane template (d' :: rest)) d' rest
        (plane.repointed (copyName naming g plane template)) (copyOf naming g plane template) := by
  obtain ⟨fields, hreference⟩ := h.reference
  obtain ⟨d', fields', hpatched, hvalue, hdescribed, hreference'⟩ :=
    Document.exists_repointed h.described hreference (copyName naming g plane template)
  have hnamespace := (Registry.of_find? h.found).1
  refine ⟨d', run_renew h hpatched, hvalue, rfl, hdescribed, ⟨fields', hreference'⟩, ?_⟩
  exact Registry.find?_created naming hnamespace

/-! ## A run of updates -/

/-- The results of updates of a control plane that give it templates of these names in turn. -/
def results (controlPlane namespace_ previous : String) :
    List String → List (Except Error Summary)
  | [] => []
  | new :: more =>
    .ok ⟨controlPlane, namespace_, previous, new⟩ :: results controlPlane namespace_ new more

/-- What updates of a registry come to, when they end in a state and have added templates of these
names. -/
structure Renewed (naming : Naming) (g : Registry) (d : Document) (rest : List Document)
    (plane : ControlPlane) (template : Resource) (outcome : List (Except Error Summary) × Registry)
    (added : List Resource) (names : List String) (d' : Document) : Prop where
  /-- All of them succeed, and each goes on from the template of the one before it. -/
  succeed : outcome.1 = results plane.name plane.namespace_ plane.template.name names
  /-- The templates that were there are unchanged, and so are the other control planes. -/
  final : outcome.2 = ⟨d' :: rest, g.templates ++ added.map (plane.template.resourceKind, ·)⟩
  named : added.map (·.metadata.name) = names.map some
  distinct : names.Nodup
  unused : ∀ name ∈ names, ∀ other, (plane.template.resourceKind, other) ∈ g.templates →
    other.metadata.namespace_ = some plane.template.namespaceText →
    other.metadata.name ≠ some name
  /-- Each template is a copy of the one that was active before its update. -/
  copies : (template :: added).IsChain IsCopy
  /-- Its version is that of the server, because none was submitted. -/
  versions : ∀ copy ∈ added, ∃ g submitted,
    copy.metadata.resourceVersion = naming.version g plane.template.resourceKind submitted
  /-- The reference of the control plane now has the last name. -/
  pointed : getAt? templateNamePath d'.value =
    some (.string (names.getLastD plane.template.name))
  /-- Nothing else in its document has changed. -/
  elsewhere : ∀ path, ¬ path <+: templateNamePath → ¬ templateNamePath <+: path →
    getAt? path d'.value = getAt? path d.value
  active : Active outcome.2 d' rest (plane.repointed (names.getLastD plane.template.name))
    (added.getLastD template)

/-- No update changes nothing. -/
theorem renewed_nil (h : Active g d rest plane template) :
    Renewed naming g d rest plane template ([], g) [] [] d := by
  obtain ⟨fields, hreference⟩ := h.reference
  exact {
    succeed := rfl
    final := by rw [List.map_nil, List.append_nil, ← h.first]
    named := rfl
    distinct := List.nodup_nil
    unused := by simp
    copies := List.IsChain.singleton _
    versions := by simp
    pointed := ControlPlane.getAt?_templateNamePath d.ordered d.read h.described hreference
    elsewhere := fun _ _ _ => rfl
    active := h }

/-- One update before others. The copy that it stores is among the templates that are there for the
others, so that none of these gets its name. -/
theorem Renewed.cons {d₁ : Document} {outcome : List (Except Error Summary) × Registry}
    {added : List Resource} {names : List String} (h : Active g d rest plane template)
    (hvalue : replaceAt (.string (copyName naming g plane template)) templateNamePath d.value =
      some d₁.value)
    (hmore : Renewed naming (updated naming g plane template (d₁ :: rest)) d₁ rest
      (plane.repointed (copyName naming g plane template)) (copyOf naming g plane template)
      outcome added names d') :
    Renewed naming g d rest plane template
      (.ok ⟨plane.name, plane.namespace_, plane.template.name,
        copyName naming g plane template⟩ :: outcome.1, outcome.2)
      (copyOf naming g plane template :: added) (copyName naming g plane template :: names) d' := by
  obtain ⟨hnamespace, hname⟩ := Registry.of_find? h.found
  refine {
    succeed := ?succeed, final := ?final, named := ?named, distinct := ?distinct,
    unused := ?unused, copies := ?copies, versions := ?versions, pointed := ?pointed,
    elsewhere := ?elsewhere, active := ?active }
  case succeed =>
    rw [hmore.succeed]
    rfl
  case final =>
    rw [hmore.final, updated, List.map_cons, List.append_assoc]
    rfl
  case named =>
    rw [List.map_cons, List.map_cons, hmore.named]
    rfl
  case distinct =>
    -- the copy is in use when the others are named
    refine List.nodup_cons.mpr ⟨fun hmem => ?_, hmore.distinct⟩
    exact hmore.unused _ hmem (copyOf naming g plane template)
      (List.mem_append_right _ (List.mem_singleton_self _)) hnamespace rfl
  case unused =>
    intro name hmem other hother hothers
    rcases List.mem_cons.mp hmem with rfl | hmem
    · exact naming.unused g _ (cloneTemplate template) other hother (hothers.trans hnamespace.symm)
    · exact hmore.unused name hmem other (List.mem_append_left _ hother) hothers
  case copies => exact .cons_cons (isCopy_stored naming g _ hname) hmore.copies
  case versions =>
    exact List.forall_mem_cons.mpr ⟨⟨g, cloneTemplate template, rfl⟩, hmore.versions⟩
  case pointed =>
    rw [List.getLastD_cons]
    exact hmore.pointed
  case elsewhere =>
    intro path hpath hbeyond
    rw [hmore.elsewhere path hpath hbeyond, Json.getAt?_replaceAt_of_diverging
      ControlPlane.templateNamePath_named hvalue hpath hbeyond]
  case active =>
    rw [List.getLastD_cons, List.getLastD_cons]
    exact hmore.active

/-- Any number of updates. The induction is on their number; the first one leaves a registry of
which the control plane is active again, and the others start from that. -/
theorem renewed_renewals (h : Active g d rest plane template) (k : Nat) :
    ∃ added names d', added.length = k ∧
      Renewed naming g d rest plane template (renewals (respond naming) pause k g)
        added names d' := by
  induction k generalizing g d plane template with
  | zero => exact ⟨[], [], d, rfl, renewed_nil h⟩
  | succ k ih =>
    obtain ⟨d₁, hrun, hvalue, hactive⟩ := h.renew naming pause
    obtain ⟨added, names, d', hlength, hmore⟩ := ih hactive
    refine ⟨copyOf naming g plane template :: added, copyName naming g plane template :: names, d',
      congrArg (· + 1) hlength, ?_⟩
    rw [renewals, hrun]
    exact hmore.cons h hvalue

/-- For every naming and every registry whose first control plane can be read and refers by an
object to a template that is there, any number of updates succeeds. As many templates are added,
each a copy of the one that was active before it, and the control plane refers to the last one;
besides that, nothing changes. -/
theorem renewals_keep_cluster_consistent (naming : Naming) (pause : Nat → Registry → Registry)
    {g : Registry} {d : Document} {rest : List Document} {plane : ControlPlane}
    {fields : Json.Fields} {template : Resource} (hfirst : g.controlPlanes = d :: rest)
    (hplane : ControlPlane.ofResource d.object = .ok plane)
    (hreference : reference? d.object = some (.object fields))
    (hfound : g.find? plane.template = some template) (k : Nat) :
    ∃ added names d', added.length = k ∧
      Renewed naming g d rest plane template (renewals (respond naming) pause k g)
        added names d' := by
  have hactive : Active g d rest plane template :=
    ⟨hfirst, ofResource_eq_ok_iff.mp hplane, ⟨fields, hreference⟩, hfound⟩
  exact renewed_renewals hactive k

/-! ## A cluster -/

def lettersInUse (g : Registry) : List Char :=
  (g.templates.map fun t => (t.2.metadata.name.getD "").toList).flatten

/-- A naming that goes on from the start of a name until it is longer than all names in use. -/
def longerNaming : Naming where
  name g _ template :=
    template.metadata.generateName.getD "" ++ String.ofList ('x' :: lettersInUse g)
  version _ _ _ := none
  unused := by
    intro g kind template other hmem _ hname
    have hlisted : (other.metadata.name.getD "").toList ∈
        g.templates.map fun t => (t.2.metadata.name.getD "").toList :=
      List.mem_map.mpr ⟨(kind, other), hmem, rfl⟩
    have hlength : (other.metadata.name.getD "").toList.length ≤ (lettersInUse g).length :=
      (List.sublist_flatten_of_mem hlisted).length_le
    rw [hname, Option.getD_some, String.toList_append, String.toList_ofList, List.length_append,
      List.length_cons] at hlength
    omega

/-- The parts of a control plane whose reference says no more than it must. -/
def plainBody : Json.Fields :=
  [("spec", .object [("infrastructureTemplate",
    .object [("kind", .string "MachineTemplate"), ("name", .string "machines")])])]

def plainValue : Json :=
  .object (("metadata",
    .object [("name", .string "control-plane"), ("namespace", .string "default")]) :: plainBody)

def plainDocument : Document where
  value := plainValue
  ordered := Json.ordered_canonical plainValue
  object := ⟨none, ⟨some "control-plane", none, some "default", none, none, none, []⟩, plainBody⟩
  read := rfl

def plainControlPlane : ControlPlane :=
  ⟨"control-plane", "default", ⟨none, "MachineTemplate", "machines", some "default"⟩⟩

def plainTemplate (namespace_ : String) : Resource :=
  ⟨none, ⟨some "machines", none, some namespace_, some "7", none, none, []⟩, []⟩

/-- The cluster of the control plane and two templates, of which it names the second. -/
def plainRegistry : Registry :=
  ⟨[plainDocument],
    [(plainControlPlane.template.resourceKind, plainTemplate "elsewhere"),
      (plainControlPlane.template.resourceKind, plainTemplate "default")]⟩

/-- Two updates of a cluster with a template of the same name in another namespace. -/
theorem renewals_keep_plain_cluster_consistent :
    plainRegistry.controlPlanes = [plainDocument] ∧
    ControlPlane.ofResource plainDocument.object = .ok plainControlPlane ∧
    plainRegistry.find? plainControlPlane.template = some (plainTemplate "default") ∧
    ∃ added names d', added.length = 2 ∧
      Renewed longerNaming plainRegistry plainDocument [] plainControlPlane
        (plainTemplate "default")
        (renewals (respond longerNaming) (fun _ g => g) 2 plainRegistry) added names d' :=
  ⟨rfl, rfl, rfl,
    renewals_keep_cluster_consistent longerNaming (fun _ g => g) rfl rfl rfl rfl 2⟩

end CertRenewal.Renewal.Rolling
