import CertRenewal.Proofs.Dialogue
import CertRenewal.Proofs.Json.PatchText
import CertRenewal.Proofs.Machines.Registry
import CertRenewal.Server.Clients

/-!
# A server whose answers may not tell what it has done

A server that keeps control planes and templates and gets requests. A request that asks for a change
is applied as a whole or not at all, and the answer to it is another matter: a change may be refused
after it was made, and the object that was made may be sent in a form that nobody can read. A
`Behaviour` says what is applied and what is answered, both as any function of the request and of
all that the server has seen, so that a theorem about all behaviours covers losses at every step.

`changed?` is what a request asks for. `run_request` is one request to a collection, and
`settled_request` says what it comes to: nothing, or one change that is as the request asks.
-/

namespace CertRenewal.Server

open CertRenewal.Cluster (Failure Resource)
open CertRenewal.Machines (Document)

/-- Control planes, and templates with the paths of the collections in which they are. -/
structure Site where
  controlPlanes : List Document
  templates : List (List Char × Resource)

/-- What a server stores of a template that is created in a collection. It has a name that no other
object of the collection has. -/
structure Acceptance where
  stored : Site → List Char → Resource → Resource
  unused : ∀ g path template, ∃ name, (stored g path template).metadata.name = some name ∧
    ∀ other, (path, other) ∈ g.templates → other.metadata.name ≠ some name

namespace Site

/-- Whether a path is that of a control plane. -/
def isAt (path : List Char) (d : Document) : Bool :=
  match d.object.metadata.namespace_, d.object.metadata.name with
  | some namespace_, some name =>
    (Server.controlPlanes (some namespace_)).objectPath name == path
  | _, _ => false

/-- Control planes, the one at a path patched, if there is one and the patch can be applied. -/
def patchAt (path : List Char) (patch : Json.Patch) : List Document → Option (List Document)
  | [] => none
  | d :: rest =>
    if isAt path d then (d.patched? patch).map (· :: rest)
    else (patchAt path patch rest).map (d :: ·)

/-- What a site is when a request has been applied, if the request asks for a change and the change
can be made: an object is created in a collection, or a control plane is patched. -/
def changed? (acceptance : Acceptance) (r : Request) (g : Site) : Option Site :=
  let path := Address.path r.address
  match r.method, r.content with
  | .post, some content => do
    let template ← Resource.ofJson? content.document.canonical
    return { g with templates := g.templates ++ [(path, acceptance.stored g path template)] }
  | .patch, some content =>
    if content.type = Collection.patchType then do
      let patch ← Json.Patch.ofJson? content.document
      return { g with controlPlanes := ← patchAt path patch g.controlPlanes }
    else none
  | _, _ => none

variable {g g' : Site} {acceptance : Acceptance} {address : List Char}

/-- A creation adds one template, which was not there before. -/
theorem templates_of_post {content : Option Content}
    (h : changed? acceptance ⟨.post, address, content⟩ g = some g') :
    g'.controlPlanes = g.controlPlanes ∧
      ∃ t, g'.templates = g.templates ++ [t] ∧ t ∉ g.templates := by
  cases content with
  | none => cases h
  | some content =>
    simp only [changed?] at h
    obtain ⟨template, -, hstored⟩ := Option.bind_eq_some_iff.mp h
    cases hstored
    refine ⟨rfl, _, rfl, fun hmem => ?_⟩
    obtain ⟨name, hname, hunused⟩ := acceptance.unused g (Address.path address) template
    exact hunused _ hmem hname

/-- Where a patch succeeds, one of the control planes is patched. -/
theorem exists_patched_of_patchAt {path : List Char} {patch : Json.Patch} {ds ds' : List Document}
    (h : patchAt path patch ds = some ds') : ∃ d ∈ ds, ∃ d' ∈ ds', d.patched? patch = some d' := by
  induction ds generalizing ds' with
  | nil => cases h
  | cons d rest ih =>
    rw [patchAt] at h
    split at h
    · obtain ⟨d', hpatched, rfl⟩ := Option.map_eq_some_iff.mp h
      exact ⟨d, List.mem_cons_self, d', List.mem_cons_self, hpatched⟩
    · obtain ⟨rest', hrest, rfl⟩ := Option.map_eq_some_iff.mp h
      obtain ⟨e, he, e', he', hpatched⟩ := ih hrest
      exact ⟨e, List.mem_cons_of_mem d he, e', List.mem_cons_of_mem d he', hpatched⟩

/-- A patch leaves the templates, and changes one of the control planes. -/
theorem controlPlanes_of_patch {patch : Json.Patch}
    (h : changed? acceptance ⟨.patch, address, some ⟨Collection.patchType, patch.toJson⟩⟩ g =
      some g') :
    g'.templates = g.templates ∧
      ∃ d ∈ g.controlPlanes, ∃ d' ∈ g'.controlPlanes, d.patched? patch = some d' := by
  simp only [changed?, if_true, Json.Patch.ofJson?_toJson] at h
  obtain ⟨p, hp, h⟩ := Option.bind_eq_some_iff.mp h
  cases hp
  obtain ⟨ds, hds, hsite⟩ := Option.bind_eq_some_iff.mp h
  cases hsite
  exact ⟨rfl, exists_patched_of_patchAt hds⟩

end Site

/-! ## Behaviours -/

/-- A site, and the requests that it has got, each with whether it was applied. -/
structure Session where
  site : Site
  log : List (Request × Bool)

namespace Session

def start (g : Site) : Session := ⟨g, []⟩

def changes (s : Session) : List Request := (s.log.filter (·.2)).map (·.1)

def Changed (m : Method) (s : Session) : Prop := ∃ r ∈ s.changes, r.method = m

end Session

/-- Which requests a server applies, if it can, and what it answers. The answer is given when the
request has been applied or not. -/
structure Behaviour where
  acceptance : Acceptance
  applies : Request → Session → Bool
  answer : Request → Session → Response

namespace Behaviour

variable (b : Behaviour)

def change? (r : Request) (s : Session) : Option Site :=
  if b.applies r s then s.site.changed? b.acceptance r else none

def behind (r : Request) (s : Session) : Session :=
  ⟨(b.change? r s).getD s.site, s.log ++ [(r, (b.change? r s).isSome)]⟩

def respond (r : Request) (s : Session) : Response × Session :=
  (b.answer r (b.behind r s), b.behind r s)

/-- A server that tells what it has done: when it has applied a request, it answers with an object
that can be read. -/
def Truthful : Prop :=
  ∀ r s, (b.change? r s).isSome →
    ∃ object, (b.respond r s).1.object Resource.ofJson? = .ok object

end Behaviour

/-! ## One request -/

/-- A request to a collection is sent once, and what is made of the answer is the result. One that
cannot be addressed is not sent. -/
theorem Collection.run_request {α σ : Type} (server : (r : Request) → σ → Response × σ)
    (pause : Nat → σ → σ) (m : Method) (target : List Char) (content : Option Content)
    (read : Json → Option α) (s : σ) :
    (Collection.request m target content read).run server pause s =
      match Address.ofText target with
      | .error cause => (.error (.address cause), s)
      | .ok address =>
        ((server ⟨m, address, content⟩ s).1.object read, (server ⟨m, address, content⟩ s).2) := by
  rw [Collection.request]
  cases Address.ofText target with
  | error cause => rfl
  | ok address => rfl

/-- A request is sent once, if it can be addressed. -/
theorem Collection.transcript_request {α σ : Type} (server : (r : Request) → σ → Response × σ)
    (pause : Nat → σ → σ) (m : Method) (target : List Char) (content : Option Content)
    (read : Json → Option α) (s : σ) :
    (Collection.request m target content read).transcript server pause s =
      match Address.ofText target with
      | .error _ => []
      | .ok address => [⟨⟨m, address, content⟩, (server ⟨m, address, content⟩ s).1⟩] := by
  rw [Collection.request]
  cases Address.ofText target with
  | error cause => rfl
  | ok address => rfl

/-- Nothing has been changed between two sessions. -/
structure Untouched (s s' : Session) : Prop where
  site : s'.site = s.site
  changes : s'.changes = s.changes

/-- Nothing is changed in two steps when nothing is in either. -/
theorem Untouched.trans {s s' s'' : Session} (h : Untouched s s') (h' : Untouched s' s'') :
    Untouched s s'' :=
  ⟨h'.site.trans h.site, h'.changes.trans h.changes⟩

/-- What a request comes to, with its result and the session behind it. -/
inductive Settled (b : Behaviour) (m : Method) (content : Option Content) {α : Type}
    (read : Json → Option α) (s : Session) (result : Except Failure α) (s' : Session) : Prop where
  /-- It was not sent, or not applied. -/
  | unchanged (h : Untouched s s')
  /-- It was applied, whatever was made of the answer. -/
  | changed (address : List Char) (happlied : (b.change? ⟨m, address, content⟩ s).isSome)
      (hsite : s.site.changed? b.acceptance ⟨m, address, content⟩ = some s'.site)
      (hchanges : s'.changes = s.changes ++ [⟨m, address, content⟩])
      (hresult : result = (b.respond ⟨m, address, content⟩ s).1.object read)

variable (b : Behaviour) (pause : Nat → Session → Session)

/-- However the server behaves, a request comes to one of the cases. -/
theorem settled_request (m : Method) (target : List Char) (content : Option Content) {α : Type}
    (read : Json → Option α) (s : Session) :
    Settled b m content read s
      ((Collection.request m target content read).run b.respond pause s).1
      ((Collection.request m target content read).run b.respond pause s).2 := by
  rw [Collection.run_request]
  cases Address.ofText target with
  | error cause => exact .unchanged ⟨rfl, rfl⟩
  | ok address =>
    cases hchange : b.change? ⟨m, address, content⟩ s with
    | none =>
      refine .unchanged ⟨?_, ?_⟩
      · simp [Behaviour.respond, Behaviour.behind, hchange]
      · simp [Behaviour.respond, Behaviour.behind, Session.changes, hchange]
    | some g =>
      refine .changed address (by rw [hchange]; rfl) ?_ ?_ rfl
      · rw [Behaviour.change?] at hchange
        split at hchange
        · simp only [Behaviour.respond, Behaviour.behind, Behaviour.change?]
          simp [*]
        · cases hchange
      · simp [Behaviour.respond, Behaviour.behind, Session.changes, hchange]

/-- A question that is one request, with its failure told in other words. -/
theorem settled_mapError (m : Method) (target : List Char) (content : Option Content) {α ε : Type}
    (read : Json → Option α) (f : Failure → ε) (s : Session) :
    ∃ result : Except Failure α,
      (((Collection.request m target content read).mapError f).run b.respond pause s).1 =
        result.mapError f ∧
      Settled b m content read s result
        (((Collection.request m target content read).mapError f).run b.respond pause s).2 := by
  rw [CertRenewal.Dialogue.run_mapError]
  exact ⟨_, rfl, settled_request b pause m target content read s⟩

variable {b} {m : Method} {content : Option Content} {α : Type} {read : Json → Option α}
variable {s s' : Session} {result : Except Failure α}

/-- A request that reads changes nothing. -/
theorem Settled.of_get (h : Settled b .get content read s result s') : Untouched s s' := by
  cases h with
  | unchanged h => exact h
  | changed address happlied hsite hchanges hresult => cases hsite

/-- A creation that changes anything adds a template, which was not there before. -/
theorem Settled.of_post (h : Settled b .post content read s result s') :
    Untouched s s' ∨ ∃ r t, s'.changes = s.changes ++ [r] ∧ r.method = .post ∧
      s'.site.controlPlanes = s.site.controlPlanes ∧
      s'.site.templates = s.site.templates ++ [t] ∧ t ∉ s.site.templates := by
  cases h with
  | unchanged h => exact .inl h
  | changed address happlied hsite hchanges hresult =>
    obtain ⟨hplanes, t, htemplates, hnew⟩ := Site.templates_of_post hsite
    exact .inr ⟨_, t, hchanges, rfl, hplanes, htemplates, hnew⟩

/-- A patch that changes anything is applied to one of the control planes. -/
theorem Settled.of_patch {patch : Json.Patch}
    (h : Settled b .patch (some ⟨Collection.patchType, patch.toJson⟩) read s result s') :
    Untouched s s' ∨ ∃ r, s'.changes = s.changes ++ [r] ∧ r.method = .patch ∧
      s'.site.templates = s.site.templates ∧
      ∃ d ∈ s.site.controlPlanes, ∃ d' ∈ s'.site.controlPlanes, d.patched? patch = some d' := by
  cases h with
  | unchanged h => exact .inl h
  | changed address happlied hsite hchanges hresult =>
    exact .inr ⟨_, hchanges, rfl, Site.controlPlanes_of_patch hsite⟩

/-- A server that tells what it has done changes nothing for a request of which an error is made. -/
theorem Settled.of_truthful (hb : b.Truthful) {failure : Failure}
    (h : Settled b m content Resource.ofJson? s (.error failure) s') : Untouched s s' := by
  cases h with
  | unchanged h => exact h
  | changed address happlied hsite hchanges hresult =>
    obtain ⟨object, hobject⟩ := hb _ _ happlied
    rw [hobject] at hresult
    cases hresult

end CertRenewal.Server
