import CertRenewal.Proofs.Rolling.Stages

/-!
# Rolling updates that share a cluster

Several updates ask the same cluster, one question of one of them at a time. The patch of an update
does not say which template the update has read, so that the cluster applies it whatever has
happened in between. What an update reports as the previous template is therefore the one that the
control plane had when this update listed.

`Coherent` is the invariant: the control plane refers to the template that was given to it last, and
every update has read the one that was given last before its listing. `Coherent.step` is one step
of one update, and `coherent_run` is any schedule. `concurrent_renewals` is the main statement,
about two updates, and `overlapping_renewals` are two that both succeed without noticing each other.
-/

namespace CertRenewal.Renewal.Rolling

open CertRenewal.Cluster (Resource ResourceKind)
open CertRenewal.Machines
  (Call ControlPlane Document Naming Registry TemplateReference cloneTemplate)
open CertRenewal.Machines.ControlPlane (Describes ofResource_eq_ok_iff)
open CertRenewal.Machines.Registry (respond patchFirst)

variable {ι : Type} [DecidableEq ι]

/-! ## The log -/

/-- The exchanges of updates that share a cluster. -/
abbrev Log (ι : Type) := List (ι × Exchange Call.Answer)

def newNames (log : Log ι) : List String := log.filterMap fun x => newName x.2

def namesBy (i : ι) (log : Log ι) : List String :=
  log.filterMap fun x => if x.1 = i then newName x.2 else none

def beforeListing (log : Log ι) (i : ι) : Log ι :=
  log.takeWhile fun x => !(decide (x.1 = i) && isListing x.2)

def Precedes (log : Log ι) (i j : ι) : Prop := namesBy i (beforeListing log j) ≠ []

omit [DecidableEq ι] in
/-- An exchange gives at most one name. -/
theorem newNames_snoc (log : Log ι) (i : ι) (x : Exchange Call.Answer) :
    newNames (log ++ [(i, x)]) = newNames log ++ (newName x).toList := by
  cases h : newName x <;> simp [newNames, h]

theorem namesBy_snoc_self (log : Log ι) (i : ι) (x : Exchange Call.Answer) :
    namesBy i (log ++ [(i, x)]) = namesBy i log ++ (newName x).toList := by
  cases h : newName x <;> simp [namesBy, h]

theorem namesBy_snoc_of_ne {i j : ι} (hne : i ≠ j) (log : Log ι) (x : Exchange Call.Answer) :
    namesBy j (log ++ [(i, x)]) = namesBy j log := by
  simp [namesBy, hne]

theorem namesBy_subset (i : ι) (log : Log ι) : namesBy i log ⊆ newNames log := by
  intro name hname
  obtain ⟨x, hx, hgiven⟩ := List.mem_filterMap.mp hname
  split at hgiven
  · exact List.mem_filterMap.mpr ⟨x, hx, hgiven⟩
  · cases hgiven

/-- An update that is not in a log has given no names. -/
theorem namesBy_of_silent {i : ι} {log : Log ι} (h : ∀ x ∈ log, x.1 ≠ i) : namesBy i log = [] := by
  rw [namesBy, List.filterMap_eq_nil_iff]
  intro x hx
  rw [if_neg (h x hx)]

/-- The exchanges before the listing are those before the first exchange of the update that is a
listing. -/
theorem beforeListing_eq {i : ι} {before after : Log ι} {x : Exchange Call.Answer}
    (hbefore : ∀ y ∈ before, y.1 ≠ i) (hx : isListing x = true) :
    beforeListing (before ++ (i, x) :: after) i = before := by
  have hall : ∀ y ∈ before, (!(decide (y.1 = i) && isListing y.2)) = true := by
    intro y hy
    simp [hbefore y hy]
  rw [beforeListing, List.takeWhile_append_of_pos hall, List.takeWhile_cons_of_neg (by simp [hx]),
    List.append_nil]

/-! ## What an update rests on -/

/-- A registry has a template of the kind, namespace and name of a reference. -/
def Names (reference : TemplateReference) (g : Registry) : Prop :=
  ∃ template, (reference.resourceKind, template) ∈ g.templates ∧
    template.metadata.namespace_ = some reference.namespaceText ∧
    template.metadata.name = some reference.name

theorem Names.mono {reference : TemplateReference} {g g' : Registry} (h : Names reference g)
    (hsubset : g.templates ⊆ g'.templates) : Names reference g' := by
  obtain ⟨template, hmem, hnamed⟩ := h
  exact ⟨template, hsubset hmem, hnamed⟩

/-- A template that is found is in the registry under the names of the reference. -/
theorem names_of_find? {reference : TemplateReference} {g : Registry} {template : Resource}
    (h : g.find? reference = some template) : Names reference g := by
  obtain ⟨t, hfound, rfl⟩ := Option.map_eq_some_iff.mp h
  have hmeant := Registry.isMeant_iff.mp (List.find?_some hfound)
  exact ⟨t.2, hmeant.1 ▸ List.mem_of_find?_eq_some hfound, hmeant.2⟩

/-- A name that is given to a copy is not that of a template that is there. -/
theorem copyName_unused (naming : Naming) {g : Registry} {plane : ControlPlane}
    {template : Resource}
    (hnamespace : template.metadata.namespace_ = some plane.template.namespaceText) {name : String}
    (h : Names (plane.template.renamed name) g) : copyName naming g plane template ≠ name := by
  obtain ⟨other, hmem, hother, hname⟩ := h
  intro heq
  refine naming.unused g plane.template.resourceKind (cloneTemplate template) other hmem ?_ ?_
  · exact hother.trans hnamespace.symm
  · rw [hname]
    exact congrArg some heq.symm

/-- What is in the registry for an update at a stage: the template that it has read, and the copy
that it has made, which has another name. -/
def Stage.Secured (g : Registry) : Stage → Prop
  | templateRead plane template =>
    Names plane.template g ∧
      template.metadata.namespace_ = some plane.template.namespaceText
  | copied plane clone | succeeded plane clone =>
    clone ≠ plane.template.name ∧ Names (plane.template.renamed clone) g
  | ready | planeRead _ | failed _ => True

/-- Templates that are added leave what an update relies on. -/
theorem Stage.Secured.mono {s : Stage} {g g' : Registry} (h : s.Secured g)
    (hsubset : g.templates ⊆ g'.templates) : s.Secured g' := by
  cases s with
  | ready => trivial
  | planeRead plane => trivial
  | templateRead plane template => exact ⟨h.1.mono hsubset, h.2⟩
  | copied plane clone => exact ⟨h.1, h.2.mono hsubset⟩
  | succeeded plane clone => exact ⟨h.1, h.2.mono hsubset⟩
  | failed error => trivial

/-! ## The invariant -/

/-- The control plane after it has been given templates of some names. -/
def current (plane : ControlPlane) (log : Log ι) : ControlPlane :=
  plane.repointed ((newNames log).getLastD plane.template.name)

omit [DecidableEq ι] in
/-- An exchange that gives no name leaves the control plane as it is. -/
theorem current_snoc_of_none (plane : ControlPlane) (log : Log ι) (i : ι)
    {x : Exchange Call.Answer} (h : newName x = none) :
    current plane (log ++ [(i, x)]) = current plane log := by
  rw [current, newNames_snoc, h, Option.toList_none, List.append_nil, current]

omit [DecidableEq ι] in
/-- The control plane has the name that was given last. -/
theorem current_snoc_of_some (plane : ControlPlane) (log : Log ι) (i : ι)
    {x : Exchange Call.Answer} {name : String} (h : newName x = some name) :
    current plane (log ++ [(i, x)]) = plane.repointed name := by
  rw [current, newNames_snoc, h, Option.toList_some, List.getLastD_concat]

/-- An update of several that has not begun. -/
structure Unheard (c : Updates ι) (i : ι) (s : Stage) : Prop where
  stage : s = .ready
  dialogue : c.dialogues i = s.dialogue
  silent : ∀ x ∈ c.log, x.1 ≠ i

/-- An update of several that has listed after some exchanges. -/
structure Begun (plane₀ : ControlPlane) (c : Updates ι) (i : ι) (s : Stage) (before : Log ι) :
    Prop where
  stage : s ≠ .ready
  dialogue : c.dialogues i = s.dialogue
  listed : ∃ x after, c.log = before ++ (i, x) :: after ∧ isListing x = true
  opening : ∀ x ∈ before, x.1 ≠ i
  /-- It has read the control plane as it was then. -/
  read : ∀ plane, s.plane? = some plane → plane = current plane₀ before
  names : namesBy i c.log = s.given
  secured : s.Secured c.state

/-- An update of several is where its stage says. -/
def Tracked (plane₀ : ControlPlane) (c : Updates ι) (i : ι) (s : Stage) : Prop :=
  Unheard c i s ∨ ∃ before, Begun plane₀ c i s before

/-- Updates that share a cluster are at their stages, the control plane is the one that was there
with the template that was given to it last, and all copies have different names. -/
structure Coherent (plane₀ : ControlPlane) (c : Updates ι) (stages : ι → Stage) : Prop where
  tracked : ∀ i, Tracked plane₀ c i (stages i)
  pointed : ∃ d rest, c.state.controlPlanes = d :: rest ∧
    Describes d.object (current plane₀ c.log)
  distinct : ∀ i j, i ≠ j → ∀ clone, (stages i).clone? = some clone →
    (stages j).clone? ≠ some clone

theorem Tracked.dialogue {plane₀ : ControlPlane} {c : Updates ι} {i : ι} {s : Stage}
    (h : Tracked plane₀ c i s) : c.dialogues i = s.dialogue := by
  obtain h | ⟨before, h⟩ := h
  · exact h.dialogue
  · exact h.dialogue

/-! ## One step -/

section

variable {naming : Naming} {plane₀ : ControlPlane} {c : Updates ι} {i j : ι} {s s' : Stage}
variable {x : Exchange Call.Answer} {g' : Registry}

abbrev moved (c : Updates ι) (i : ι) (x : Exchange Call.Answer) (s' : Stage) (g' : Registry) :
    Updates ι :=
  ⟨Function.update c.dialogues i s'.dialogue, g', c.log ++ [(i, x)]⟩

/-- No template is lost by a move. -/
theorem Move.templates_subset {g : Registry} (h : Move naming g s x s' g') :
    g.templates ⊆ g'.templates := by
  cases h with
  | list hfirst h => exact List.Subset.refl _
  | lookUp h => exact List.Subset.refl _
  | create plane template => exact List.subset_append_left _ _
  | patch h => exact List.Subset.refl _
  | fail error hs hname hlisting => exact List.Subset.refl _

/-- A move of one update is none of another. -/
theorem Tracked.other (h : Tracked plane₀ c j s) (hne : i ≠ j)
    (hsubset : c.state.templates ⊆ g'.templates) :
    Tracked plane₀ (moved c i x s' g') j s := by
  have hdialogue : Function.update c.dialogues i s'.dialogue j = s.dialogue := by
    rw [Function.update_of_ne hne.symm]
    exact h.dialogue
  obtain h | ⟨before, h⟩ := h
  · refine .inl ⟨h.stage, hdialogue, ?_⟩
    intro y hy
    rcases List.mem_append.mp hy with hy | hy
    · exact h.silent y hy
    · rw [List.mem_singleton.mp hy]
      exact hne
  · obtain ⟨y, after, hlog, hy⟩ := h.listed
    refine .inr ⟨before, h.stage, hdialogue, ⟨y, after ++ [(i, x)], ?_, hy⟩, h.opening, h.read, ?_,
      h.secured.mono hsubset⟩
    · simp [hlog]
    · rw [namesBy_snoc_of_ne hne]
      exact h.names

/-- An update that has listed goes on with the control plane that it has read. -/
theorem Begun.move {before : Log ι} (h : Begun plane₀ c i s before) (hs' : s' ≠ .ready)
    (hplane : ∀ plane, s'.plane? = some plane → s.plane? = some plane)
    (hgiven : s'.given = s.given ++ (newName x).toList) (hsecured : s'.Secured g') :
    Tracked plane₀ (moved c i x s' g') i s' := by
  obtain ⟨y, after, hlog, hy⟩ := h.listed
  refine .inr ⟨before, hs', Function.update_self i _ _, ⟨y, after ++ [(i, x)], ?_, hy⟩, h.opening,
    fun plane hp => h.read plane (hplane plane hp), ?_, hsecured⟩
  · simp [hlog]
  · rw [namesBy_snoc_self, h.names, hgiven]

/-- The listing of an update that has not begun. -/
theorem Unheard.list (h : Unheard c i s) (hx : isListing x = true) (hname : newName x = none)
    (hs' : s' ≠ .ready) (hread : ∀ plane, s'.plane? = some plane → plane = current plane₀ c.log)
    (hgiven : s'.given = []) (hsecured : s'.Secured g') :
    Tracked plane₀ (moved c i x s' g') i s' := by
  refine .inr ⟨c.log, hs', Function.update_self i _ _, ⟨x, [], rfl, hx⟩, h.silent, hread, ?_,
    hsecured⟩
  rw [namesBy_snoc_self, namesBy_of_silent h.silent, hname, hgiven]
  rfl

/-- An update that has begun is not ready, and one that is ready has not begun. -/
theorem Tracked.begun (h : Tracked plane₀ c i s) (hs : s ≠ .ready) :
    ∃ before, Begun plane₀ c i s before := by
  obtain h | h := h
  · exact absurd h.stage hs
  · exact h

theorem Tracked.unheard (h : Tracked plane₀ c i .ready) : Unheard c i .ready := by
  obtain h | ⟨before, h⟩ := h
  · exact h
  · exact absurd rfl h.stage

/-- The update that moves is at the stage that the move leads to. One case per move: only the
listing reads the control plane, only the copy adds a template, and only the patch gives a name. -/
theorem Tracked.move (h : Tracked plane₀ c i s)
    (hpointed : ∃ d rest, c.state.controlPlanes = d :: rest ∧
      Describes d.object (current plane₀ c.log))
    (hmove : Move naming c.state s x s' g') : Tracked plane₀ (moved c i x s' g') i s' := by
  cases hmove with
  | @list d rest plane hfirst hplane =>
    refine h.unheard.list rfl rfl (by simp) ?_ rfl trivial
    intro p hp
    cases hp
    obtain ⟨d', rest', hfirst', hcurrent⟩ := hpointed
    rw [hfirst] at hfirst'
    cases hfirst'
    have hsame := (ofResource_eq_ok_iff.mpr hplane).symm.trans (ofResource_eq_ok_iff.mpr hcurrent)
    cases hsame
    rfl
  | @lookUp plane template hfound =>
    obtain ⟨before, h⟩ := h.begun (by simp)
    exact h.move (by simp) (fun p hp => hp) rfl
      ⟨names_of_find? hfound, (Registry.of_find? hfound).1⟩
  | create plane template =>
    obtain ⟨before, h⟩ := h.begun (by simp)
    obtain ⟨hnames, hnamespace⟩ := h.secured
    refine h.move (by simp) (fun p hp => hp) rfl ⟨?_, ?_⟩
    · exact copyName_unused naming hnamespace hnames
    · exact ⟨copyOf naming c.state plane template,
        List.mem_append_right _ (List.mem_singleton_self _), hnamespace, rfl⟩
  | @patch plane clone controlPlanes hpatched =>
    obtain ⟨before, h⟩ := h.begun (by simp)
    exact h.move (by simp) (fun p hp => hp) rfl h.secured
  | fail error hover hname hlisting =>
    by_cases hs : s = .ready
    · subst hs
      exact h.unheard.list (hlisting.mp rfl) hname (by simp) (by simp [Stage.plane?]) rfl trivial
    · obtain ⟨before, h⟩ := h.begun hs
      have hgiven : s.given = [] := by cases s <;> first | rfl | cases hover
      refine h.move (by simp) (by simp [Stage.plane?]) ?_ trivial
      rw [hgiven, hname]
      rfl

/-- A control plane that comes first and is patched is then read with the new template. -/
theorem describes_of_patchFirst {d : Document} {rest controlPlanes : List Document}
    {plane plane' : ControlPlane} {clone : String} (hplane : Describes d.object plane)
    (hname : plane'.name = plane.name) (hnamespace : plane'.namespace_ = plane.namespace_)
    (h : patchFirst plane'.namespace_ plane'.name (ControlPlane.templatePatch clone) (d :: rest) =
      .ok controlPlanes) :
    ∃ d', controlPlanes = d' :: rest ∧ Describes d'.object (plane.repointed clone) := by
  have hnamed : Machines.Store.isNamed plane'.namespace_ plane'.name d.object = true := by
    rw [hname, hnamespace]
    exact Registry.isNamed_iff.mpr ⟨hplane.namespace_, hplane.name⟩
  rw [patchFirst, if_pos hnamed] at h
  cases hpatched : d.patched? (ControlPlane.templatePatch clone) with
  | none => rw [hpatched] at h; cases h
  | some d' =>
    rw [hpatched] at h
    cases h
    exact ⟨d', rfl, Document.describes_of_patched? hplane hpatched⟩

/-- After a move the control plane has the template that was given to it last. -/
theorem pointed_move (h : Tracked plane₀ c i s)
    (hpointed : ∃ d rest, c.state.controlPlanes = d :: rest ∧
      Describes d.object (current plane₀ c.log))
    (hmove : Move naming c.state s x s' g') :
    ∃ d rest, g'.controlPlanes = d :: rest ∧
      Describes d.object (current plane₀ (c.log ++ [(i, x)])) := by
  obtain ⟨d, rest, hfirst, hplane⟩ := hpointed
  cases hmove with
  | list hfirst' hplane' => exact ⟨d, rest, hfirst, by rwa [current_snoc_of_none _ _ _ rfl]⟩
  | lookUp hfound => exact ⟨d, rest, hfirst, by rwa [current_snoc_of_none _ _ _ rfl]⟩
  | create plane template => exact ⟨d, rest, hfirst, by rwa [current_snoc_of_none _ _ _ rfl]⟩
  | fail error hover hname hlisting =>
    exact ⟨d, rest, hfirst, by rwa [current_snoc_of_none _ _ _ hname]⟩
  | @patch plane clone controlPlanes hpatched =>
    obtain ⟨before, h⟩ := h.begun (by simp)
    have hread := h.read plane rfl
    rw [hfirst] at hpatched
    obtain ⟨d', rfl, hd'⟩ := describes_of_patchFirst hplane (by rw [hread]; rfl)
      (by rw [hread]; rfl) hpatched
    refine ⟨d', rest, rfl, ?_⟩
    rw [current_snoc_of_some plane₀ c.log i rfl]
    exact hd'

/-- The name of the copy of an update, in the kind and namespace of the control plane. -/
theorem Tracked.names_clone {clone : String} (h : Tracked plane₀ c j s)
    (hclone : s.clone? = some clone) : Names (plane₀.template.renamed clone) c.state := by
  cases s with
  | copied plane clone' =>
    cases hclone
    obtain ⟨before, h⟩ := h.begun (by simp)
    have hread := h.read plane rfl
    have hsecured := h.secured.2
    rw [hread] at hsecured
    exact hsecured
  | succeeded plane clone' =>
    cases hclone
    obtain ⟨before, h⟩ := h.begun (by simp)
    have hread := h.read plane rfl
    have hsecured := h.secured.2
    rw [hread] at hsecured
    exact hsecured
  | ready => cases hclone
  | planeRead plane => cases hclone
  | templateRead plane template => cases hclone
  | failed error => cases hclone

/-- A copy that an update has after a move is one that it had before, or gets a name that no other
update has. -/
theorem clone_move {clone : String} (h : Tracked plane₀ c i s) (hother : Tracked plane₀ c j s₂)
    (hne : s.clone? = some clone → s₂.clone? ≠ some clone)
    (hmove : Move naming c.state s x s' g') (hclone : s'.clone? = some clone) :
    s₂.clone? ≠ some clone := by
  cases hmove with
  | list hfirst hplane => cases hclone
  | lookUp hfound => cases hclone
  | fail error hover hname hlisting => cases hclone
  | patch hpatched => exact hne hclone
  | create plane template =>
    intro hclone₂
    obtain ⟨before, h⟩ := h.begun (by simp)
    have hread := h.read plane rfl
    have hnames := hother.names_clone hclone₂
    have hused : Names (plane.template.renamed clone) c.state := by
      rw [hread]
      exact hnames
    refine copyName_unused naming h.secured.2 hused ?_
    simpa [Stage.clone?] using hclone

/-- One step of one update. -/
theorem Coherent.step {stages : ι → Stage} (h : Coherent plane₀ c stages)
    (pause : Nat → Registry → Registry) (i : ι) :
    ∃ stages', Coherent plane₀ (c.step (respond naming) pause i) stages' := by
  obtain hsame | ⟨x, s', g', hmove, hstep⟩ :=
    step_of_stage naming pause (h.tracked i).dialogue
  · rw [hsame]
    exact ⟨stages, h⟩
  rw [hstep]
  refine ⟨Function.update stages i s', ?_, pointed_move (h.tracked i) h.pointed hmove, ?_⟩
  · intro j
    by_cases hj : j = i
    · subst hj
      rw [Function.update_self]
      exact (h.tracked j).move h.pointed hmove
    · rw [Function.update_of_ne hj]
      exact (h.tracked j).other (Ne.symm hj) hmove.templates_subset
  · intro j k hjk clone hclone
    by_cases hj : j = i
    · subst hj
      rw [Function.update_self] at hclone
      rw [Function.update_of_ne hjk.symm]
      exact clone_move (h.tracked j) (h.tracked k) (h.distinct j k hjk clone) hmove hclone
    · rw [Function.update_of_ne hj] at hclone
      by_cases hk : k = i
      · subst hk
        rw [Function.update_self]
        intro hclone'
        exact clone_move (h.tracked k) (h.tracked j) (h.distinct k j hjk.symm clone) hmove hclone'
          hclone
      · rw [Function.update_of_ne hk]
        exact h.distinct j k hjk clone hclone

end

/-! ## Any schedule -/

def begin (ι : Type) (g : Registry) : Updates ι := .start (fun _ => renew) g

/-- After any schedule the updates are coherent, when the first control plane can be read. -/
theorem coherent_run (naming : Naming) (pause : Nat → Registry → Registry) {g : Registry}
    {d : Document} {rest : List Document} {plane : ControlPlane}
    (hfirst : g.controlPlanes = d :: rest) (hplane : Describes d.object plane)
    (schedule : List ι) :
    ∃ stages, Coherent plane ((begin ι g).run (respond naming) pause schedule) stages := by
  refine Interleaving.run_induction (P := fun c => ∃ stages, Coherent plane c stages) ?_ schedule ?_
  · rintro c i ⟨stages, h⟩
    exact h.step pause i
  · refine ⟨fun _ => .ready, fun i => .inl ⟨rfl, rfl, by simp [begin, Interleaving.start]⟩,
      ⟨d, rest, hfirst, hplane⟩, ?_⟩
    intro i j hij clone hclone
    cases hclone

/-- No update succeeds when the first control plane cannot be read. Nothing is changed then, because
every update ends with its listing. -/
theorem exists_described (naming : Naming) (pause : Nat → Registry → Registry) {g : Registry}
    (schedule : List ι) {i : ι} {summary : Summary}
    (h : ((begin ι g).run (respond naming) pause schedule).dialogues i = .done (.ok summary)) :
    ∃ d rest plane, g.controlPlanes = d :: rest ∧ Describes d.object plane := by
  by_contra hnone
  have hstuck : ∀ i, ∃ s : Stage, (s = .ready ∨ ∃ e, s = .failed e) ∧
      ((begin ι g).run (respond naming) pause schedule).dialogues i = s.dialogue := by
    refine (Interleaving.run_induction (P := fun c : Updates ι => c.state = g ∧
      ∀ i, ∃ s : Stage, (s = .ready ∨ ∃ e, s = .failed e) ∧ c.dialogues i = s.dialogue)
      ?_ schedule ⟨rfl, fun i => ⟨.ready, .inl rfl, rfl⟩⟩).2
    rintro c j ⟨hstate, hstages⟩
    obtain ⟨s, hs, hdialogue⟩ := hstages j
    obtain hsame | ⟨x, s', g', hmove, hstep⟩ := step_of_stage naming pause hdialogue
    · rw [hsame]
      exact ⟨hstate, hstages⟩
    · rw [hstep]
      cases hmove with
      | @list d rest plane hfirst hplane =>
        exact absurd ⟨d, rest, plane, hstate ▸ hfirst, hplane⟩ hnone
      | fail error hover hname hlisting =>
        refine ⟨hstate, fun k => ?_⟩
        by_cases hk : k = j
        · subst hk
          exact ⟨.failed error, .inr ⟨error, rfl⟩, Function.update_self _ _ _⟩
        · obtain ⟨s, hs, hdialogue⟩ := hstages k
          exact ⟨s, hs, (Function.update_of_ne hk _ _).trans hdialogue⟩
      | lookUp hfound => simp at hs
      | create plane template => simp at hs
      | patch hpatched => simp at hs
  obtain ⟨s, hs, hdialogue⟩ := hstuck i
  rw [h] at hdialogue
  obtain ⟨plane, clone, rfl, -⟩ := Stage.eq_succeeded_of_dialogue hdialogue.symm
  simp at hs

/-- What an update that has succeeded reports. -/
structure Reported (plane₀ : ControlPlane) (c : Updates ι) (i : ι) (s : Stage) (a : Summary) :
    Prop where
  /-- Its previous template is the one that the control plane had when it listed. -/
  previous : a.previousTemplate = (current plane₀ (beforeListing c.log i)).template.name
  opening : ∀ x ∈ beforeListing c.log i, x.1 ≠ i
  names : namesBy i c.log = [a.newTemplate]
  clone : s.clone? = some a.newTemplate
  renamed : a.newTemplate ≠ a.previousTemplate

/-- An update that has succeeded reports what its stage says. -/
theorem Tracked.reported {plane₀ : ControlPlane} {c : Updates ι} {i : ι} {s : Stage} {a : Summary}
    (h : Tracked plane₀ c i s) (ha : c.dialogues i = .done (.ok a)) : Reported plane₀ c i s a := by
  rw [h.dialogue] at ha
  obtain ⟨plane, clone, rfl, rfl⟩ := Stage.eq_succeeded_of_dialogue ha
  obtain ⟨before, h⟩ := h.begun (by simp)
  obtain ⟨x, after, hlog, hx⟩ := h.listed
  have hbefore : beforeListing c.log i = before := by
    rw [hlog]
    exact beforeListing_eq h.opening hx
  have hread := h.read plane rfl
  refine ⟨?_, ?_, h.names, rfl, h.secured.1⟩
  · rw [hbefore, ← hread]
  · rw [hbefore]
    exact h.opening

/-! ## Two updates -/

inductive Side where
  | left
  | right
  deriving DecidableEq, Repr

theorem Side.eq_of_ne {i j k : Side} (hij : i ≠ j) (hk : k ≠ i) : k = j := by
  cases i <;> cases j <;> cases k <;> simp_all

/-- One of two updates has gone on from what the other one has done. -/
def Serialised (a b : Summary) : Prop :=
  a.previousTemplate = b.newTemplate ∨ b.previousTemplate = a.newTemplate

instance (a b : Summary) : Decidable (Serialised a b) :=
  inferInstanceAs (Decidable (_ ∨ _))

/-- In a log of two updates in which one is silent, all names are given by the other. -/
theorem newNames_of_silent {i j : Side} (hij : i ≠ j) {log : Log Side} (h : ∀ x ∈ log, x.1 ≠ i) :
    newNames log = namesBy j log := by
  refine List.filterMap_congr fun x hx => ?_
  rw [if_pos (Side.eq_of_ne hij (h x hx))]

/-- What an update that has given one name had given before another one listed: nothing, or this
name. -/
theorem namesBy_beforeListing (log : Log ι) (i j : ι) {name : String}
    (h : namesBy i log = [name]) :
    namesBy i (beforeListing log j) = [] ∨ namesBy i (beforeListing log j) = [name] := by
  have hprefix : namesBy i (beforeListing log j) <+: namesBy i log :=
    (List.takeWhile_prefix _).filterMap _
  rw [h] at hprefix
  obtain ⟨more, hmore⟩ := hprefix
  cases hnames : namesBy i (beforeListing log j) with
  | nil => exact .inl rfl
  | cons first rest =>
    rw [hnames] at hmore
    cases rest with
    | nil =>
      right
      cases hmore
      rfl
    | cons second rest => simp at hmore

section

variable {plane₀ : ControlPlane} {c : Updates Side} {i j : Side} {s₁ s₂ : Stage} {a b : Summary}

/-- An update that lists after the other one has changed the control plane reports the new template
of the other. -/
theorem previous_of_precedes (hij : i ≠ j) (ha : Reported plane₀ c i s₁ a)
    (hb : Reported plane₀ c j s₂ b) (h : Precedes c.log j i) :
    a.previousTemplate = b.newTemplate := by
  have hnames := (namesBy_beforeListing c.log j i hb.names).resolve_left h
  rw [ha.previous, current, newNames_of_silent hij ha.opening, hnames]
  rfl

/-- An update that lists before that reports the template that was there at the beginning. -/
theorem previous_of_not_precedes (hij : i ≠ j) (ha : Reported plane₀ c i s₁ a)
    (h : ¬ Precedes c.log j i) : a.previousTemplate = plane₀.template.name := by
  have hnames : namesBy j (beforeListing c.log i) = [] := not_not.mp h
  rw [ha.previous, current, newNames_of_silent hij ha.opening, hnames]
  rfl

end

/-- What two updates that have both succeeded come to. -/
structure BothSucceed (c : Updates Side) (a b : Summary) : Prop where
  /-- They are serialised exactly when one of them had changed the control plane before the other
  one listed. -/
  serialised_iff : Serialised a b ↔ Precedes c.log .left .right ∨ Precedes c.log .right .left
  /-- The later one then goes on from the new template of the earlier. -/
  left_first : Precedes c.log .left .right → b.previousTemplate = a.newTemplate
  right_first : Precedes c.log .right .left → a.previousTemplate = b.newTemplate
  /-- When both have listed before either changes anything, both go on from the same template. -/
  overlapping : ¬ Precedes c.log .left .right → ¬ Precedes c.log .right .left →
    a.previousTemplate = b.previousTemplate
  /-- In any case they have made two copies. -/
  copies : a.newTemplate ≠ b.newTemplate
  /-- The control plane refers to the copy of the one that changed it last. -/
  pointed : ∃ d rest plane, c.state.controlPlanes = d :: rest ∧
    ControlPlane.ofResource d.object = .ok plane ∧
    (newNames c.log).getLast? = some plane.template.name

/-- For every registry, every naming and every schedule of two updates that both succeed, they are
serialised exactly when one of them had changed the control plane before the other one listed.
Otherwise neither of them notices the other, and the control plane refers to the copy of the one
that changed it last. -/
theorem concurrent_renewals (naming : Naming) (pause : Nat → Registry → Registry) (g : Registry)
    (schedule : List Side) {a b : Summary}
    (ha : ((begin Side g).run (respond naming) pause schedule).dialogues .left = .done (.ok a))
    (hb : ((begin Side g).run (respond naming) pause schedule).dialogues .right = .done (.ok b)) :
    BothSucceed ((begin Side g).run (respond naming) pause schedule) a b := by
  obtain ⟨d₀, rest₀, plane₀, hfirst₀, hplane₀⟩ := exists_described naming pause schedule ha
  obtain ⟨stages, hcoherent⟩ := coherent_run naming pause hfirst₀ hplane₀ schedule
  generalize (begin Side g).run (respond naming) pause schedule = c at ha hb hcoherent ⊢
  have hleft := (hcoherent.tracked .left).reported ha
  have hright := (hcoherent.tracked .right).reported hb
  have hab : Precedes c.log .left .right → b.previousTemplate = a.newTemplate :=
    previous_of_precedes (by simp) hright hleft
  have hba : Precedes c.log .right .left → a.previousTemplate = b.newTemplate :=
    previous_of_precedes (by simp) hleft hright
  have hneither : ¬ Precedes c.log .left .right → ¬ Precedes c.log .right .left →
      a.previousTemplate = b.previousTemplate := by
    intro hl hr
    rw [previous_of_not_precedes (by simp) hleft hr, previous_of_not_precedes (by simp) hright hl]
  refine {
    serialised_iff := ⟨?_, ?_⟩, left_first := hab, right_first := hba, overlapping := hneither,
    copies := ?_, pointed := ?_ }
  · intro hserialised
    by_contra hnot
    obtain ⟨hl, hr⟩ := not_or.mp hnot
    have hsame := hneither hl hr
    rcases hserialised with h | h
    · exact hright.renamed (h.symm.trans hsame)
    · exact hleft.renamed (h.symm.trans hsame.symm)
  · rintro (h | h)
    · exact .inr (hab h)
    · exact .inl (hba h)
  · intro hsame
    refine hcoherent.distinct .left .right (by simp) _ hleft.clone ?_
    rw [hsame]
    exact hright.clone
  · obtain ⟨d, rest, hfirst, hplane⟩ := hcoherent.pointed
    refine ⟨d, rest, _, hfirst, ofResource_eq_ok_iff.mpr hplane, ?_⟩
    have hnonempty : newNames c.log ≠ [] := by
      intro hnil
      have hmem := namesBy_subset .left c.log (by rw [hleft.names]; exact List.mem_singleton_self _)
      rw [hnil] at hmem
      cases hmem
    rw [current, ControlPlane.repointed, TemplateReference.renamed,
      List.getLast?_eq_some_getLast hnonempty, List.getLastD_eq_getLast?,
      List.getLast?_eq_some_getLast hnonempty, Option.getD_some]

/-- Two updates of the cluster of one control plane, one after the other. -/
theorem concurrent_renewals_in_turn :
    let c := (begin Side plainRegistry).run (respond longerNaming) (fun _ g => g)
      (List.replicate 4 .left ++ List.replicate 4 .right)
    let a : Summary := ⟨"control-plane", "default", "machines", "machines-xmachinesmachines"⟩
    let b : Summary := ⟨"control-plane", "default", "machines-xmachinesmachines",
      "machines-xmachinesmachines-xmachinesmachinesmachines-xmachinesmachines"⟩
    c.dialogues .left = .done (.ok a) ∧ c.dialogues .right = .done (.ok b) ∧
    BothSucceed c a b := by
  intro c a b
  have ha : c.dialogues .left = .done (.ok a) := rfl
  have hb : c.dialogues .right = .done (.ok b) := rfl
  exact ⟨ha, hb, concurrent_renewals longerNaming (fun _ g => g) plainRegistry
    (List.replicate 4 .left ++ List.replicate 4 .right) ha hb⟩

/-- Two updates of the same cluster that take turns at every question. Both succeed, and neither has
gone on from what the other has done: the control plane had been pointed at another template when
the second one patched it. -/
theorem overlapping_renewals :
    let c := (begin Side plainRegistry).run (respond longerNaming) (fun _ g => g)
      [.left, .right, .left, .right, .left, .right, .left, .right]
    let a : Summary := ⟨"control-plane", "default", "machines", "machines-xmachinesmachines"⟩
    let b : Summary := ⟨"control-plane", "default", "machines",
      "machines-xmachinesmachinesmachines-xmachinesmachines"⟩
    c.dialogues .left = .done (.ok a) ∧ c.dialogues .right = .done (.ok b) ∧ ¬ Serialised a b :=
  ⟨rfl, rfl, by decide⟩

end CertRenewal.Renewal.Rolling
