import CertRenewal.Proofs.Dialogue
import CertRenewal.Server.Clients
import Mathlib.Data.List.TakeWhile

/-!
# What requests are aimed at

Names are written into a path as they are. When the whole is taken for an address, a number sign in
it ends the address and a question mark ends the path. `pathOf` is what is left of a path, and
`Sends` says of a request that it is the one with a given method, target and content.

For every question of a client there is a statement about the requests that may be sent to answer
it. Most questions are answered by requests that only read.
-/

namespace CertRenewal.Server

open CertRenewal.Cluster (Failure Resource ResourceKind)
open CertRenewal.Dialogue (Within Every)

/-! ## Paths -/

def Request.path (r : Request) : List Char := Address.path r.address

def endsPath (c : Char) : Bool := c == '#' || c == '?'

/-- What is left of a path that is written with names in it. -/
def pathOf (s : String) : List Char := s.toList.takeWhile fun c => !endsPath c

/-- Nothing in a text ends a path. -/
def IsPlain (s : String) : Prop := ∀ c ∈ s.toList, endsPath c = false

instance (s : String) : Decidable (IsPlain s) :=
  List.decidableBAll (fun c => endsPath c = false) s.toList

theorem IsPlain.append {s t : String} (hs : IsPlain s) (ht : IsPlain t) : IsPlain (s ++ t) := by
  intro c hc
  rw [String.toList_append] at hc
  exact (List.mem_append.mp hc).elim (hs c) (ht c)

/-- A path runs on as long as nothing ends it. -/
theorem pathOf_append {s : String} (h : IsPlain s) (t : String) :
    pathOf (s ++ t) = s.toList ++ pathOf t := by
  rw [pathOf, String.toList_append]
  exact List.takeWhile_append_of_pos fun c hc => by rw [h c hc]; rfl

/-- Of a path with plain names nothing is lost. -/
theorem pathOf_of_isPlain {s : String} (h : IsPlain s) : pathOf s = s.toList := by
  rw [← String.append_empty (s := s), pathOf_append h]
  simp [pathOf]

/-- Where a text stands for an address, its path is what is left of the text. -/
theorem path_of_ofText {target address : List Char} (h : Address.ofText target = .ok address) :
    Address.path address = target.takeWhile fun c => !endsPath c := by
  have haddress : address = target.takeWhile (· != '#') := by
    rw [Address.ofText] at h
    split at h
    · cases h
    · split at h
      · exact (Except.ok.inj h).symm
      · cases h
  rw [haddress, Address.path, List.takeWhile_takeWhile]
  refine congrArg (List.takeWhile · target) (funext fun c => ?_)
  rw [endsPath]
  cases h₁ : c == '#' <;> cases h₂ : c == '?' <;> simp_all [bne]

/-! ## Requests -/

-- From here on `path_of_ofText` is all that is used of an address.
attribute [local irreducible] Address.ofText

structure Sends (m : Method) (target : List Char) (content : Option Content) (r : Request) :
    Prop where
  method : r.method = m
  address : Address.ofText target = .ok r.address
  content : r.content = content

variable {m : Method} {content : Option Content} {r : Request}

/-- A question mark at the end of a target is no part of the path. -/
theorem Sends.path_eq {s : String} (h : Sends m (s.toList ++ ['?']) content r) :
    r.path = pathOf s := by
  rw [Request.path, path_of_ofText h.address, pathOf, List.takeWhile_append]
  split
  · next hall =>
    rw [List.takeWhile_cons_of_neg (by decide), List.append_nil]
    exact (List.takeWhile_prefix _).eq_of_length hall |>.symm
  · rfl

/-- Nothing but the request is sent, and it is not sent when it cannot be addressed. -/
theorem request_within {α : Type} (m : Method) (target : List Char) (content : Option Content)
    (read : Json → Option α) :
    (Collection.request m target content read).Within (Sends m target content) := by
  rw [Collection.request]
  cases h : Address.ofText target with
  | error cause => trivial
  | ok address => exact ⟨⟨rfl, h, rfl⟩, fun response => trivial⟩

/-- What is sent, and what is made of the response. -/
theorem every_request {α : Type} (m : Method) (target : List Char) (content : Option Content)
    (read : Json → Option α) :
    (Collection.request m target content read).Every fun xs v =>
      (∃ cause, Address.ofText target = .error cause ∧ xs = [] ∧ v = .error (.address cause)) ∨
        ∃ r response, Sends m target content r ∧ xs = [⟨r, response⟩] ∧
          v = response.object read := by
  rw [Collection.request]
  cases h : Address.ofText target with
  | error cause => exact .inl ⟨cause, rfl, rfl, rfl⟩
  | ok address => exact fun response => .inr ⟨_, response, ⟨rfl, h, rfl⟩, rfl, rfl⟩

def Reads (r : Request) : Prop := r.method = .get

theorem list_within {α : Type} (c : Collection) (conditions : List (String × String))
    (read : Json → Option α) : (c.list conditions read).Within Reads :=
  Within.mono (request_within ..) fun _ h => h.method

theorem get_within {α : Type} (c : Collection) (name : String) (read : Json → Option α) :
    (c.get name read).Within Reads :=
  Within.mono (request_within ..) fun _ h => h.method

/-- The deletion of the object at a path, which is to be gone at once. -/
structure DeletesAt (path : String) (r : Request) : Prop where
  method : r.method = .delete
  content : r.content = some ⟨"application/json", .object [("gracePeriodSeconds", .ofInt 0)]⟩
  path : r.path = pathOf path

/-- A deletion is sent to the path of its object, and nothing else is. -/
theorem delete_within {α : Type} {c : Collection} {name path : String}
    (hpath : c.objectPath name = path.toList) (read : Json → Option α) :
    (c.delete name read).Within (DeletesAt path) := by
  rw [Collection.delete, hpath]
  exact Within.mono (request_within ..) fun r h => ⟨h.method, h.content, h.path_eq⟩

/-- An object is deleted by one request, or by none, and then the answer is an error. -/
theorem every_delete {α : Type} {c : Collection} {name path : String}
    (hpath : c.objectPath name = path.toList) (read : Json → Option α) :
    (c.delete name read).Every fun xs v =>
      (xs = [] ∧ ∃ cause, v = .error cause) ∨
        ∃ r response, xs = [⟨r, response⟩] ∧ DeletesAt path r := by
  rw [Collection.delete, hpath]
  refine Every.mono (every_request ..) ?_
  rintro xs v (⟨cause, -, rfl, rfl⟩ | ⟨r, response, hsends, rfl, rfl⟩)
  · exact .inl ⟨rfl, _, rfl⟩
  · exact .inr ⟨r, response, rfl, hsends.method, hsends.content, hsends.path_eq⟩

/-! ## Objects in a namespace -/

/-- The path of an object in a namespace. -/
theorem objectPath_eq {kind : ResourceKind} {root : String}
    (hroot : (if kind.group = "" then "/api/" else "/apis/") ++ kind.apiVersion ++ "/namespaces/" =
      root) (namespace_ name : String) :
    (Collection.mk kind (some namespace_)).objectPath name =
      (root ++ namespace_ ++ "/" ++ kind.plural ++ "/" ++ name).toList := by
  have hslash : '/' :: name.toList = ("/" ++ name).toList := by rw [String.toList_append]; rfl
  have hplace : "/namespaces/" = "/" ++ "namespaces/" := by decide
  rw [Collection.objectPath, Collection.path, hslash, ← String.toList_append, ← hroot, hplace]
  simp only [Option.map_some, Option.getD_some, String.append_assoc]

/-- The path of a secret, with the names as they are. -/
theorem objectPath_secret (namespace_ name : String) :
    (secrets (some namespace_)).objectPath name =
      ("/api/v1/namespaces/" ++ namespace_ ++ "/" ++ "secrets" ++ "/" ++ name).toList :=
  objectPath_eq (by decide) namespace_ name

theorem objectPath_pod (namespace_ name : String) :
    (pods namespace_).objectPath name =
      ("/api/v1/namespaces/" ++ namespace_ ++ "/" ++ "pods" ++ "/" ++ name).toList :=
  objectPath_eq (by decide) namespace_ name

theorem objectPath_controlPlane (namespace_ name : String) :
    (controlPlanes (some namespace_)).objectPath name =
      ("/apis/controlplane.cluster.x-k8s.io/v1alpha3/namespaces/" ++ namespace_ ++ "/" ++
        "kubeadmcontrolplanes" ++ "/" ++ name).toList :=
  objectPath_eq (by decide) namespace_ name

/-! ## What answers a question -/

/-- What may be sent to answer a question of the inventory. -/
def InventoryScope : Inventory.Call → Request → Prop
  | .deleteSecret namespace_ name =>
    DeletesAt ("/api/v1/namespaces/" ++ namespace_ ++ "/" ++ "secrets" ++ "/" ++ name)
  | .deletePod namespace_ name =>
    DeletesAt ("/api/v1/namespaces/" ++ namespace_ ++ "/" ++ "pods" ++ "/" ++ name)
  | .listSecrets _ | .getSecret _ _ | .listPods _ | .listNodes => Reads

/-- A question of the inventory sends one request of its scope. -/
theorem inventory_within (c : Inventory.Call) : (inventory c).Within (InventoryScope c) := by
  cases c with
  | listSecrets query => exact Within.mapError (list_within ..) _
  | getSecret namespace_ name => exact Within.mapError (get_within ..) _
  | deleteSecret namespace_ name =>
    exact Within.mapError (delete_within (objectPath_secret namespace_ name) _) _
  | listPods namespace_ => exact Within.mapError (list_within ..) _
  | deletePod namespace_ name =>
    exact Within.mapError (delete_within (objectPath_pod namespace_ name) _) _
  | listNodes => exact Within.mapError (list_within ..) _

/-- The creation of a pod in the namespace of maintenance pods. -/
structure CreatesPod (r : Request) : Prop where
  method : r.method = .post
  path : r.path = "/api/v1/namespaces/kube-system/pods".toList

/-- What may be sent to answer a question of an in-place renewal whose pods have the namespace of
maintenance pods. -/
theorem maintenance_within (defaultNamespace : String) (c : Maintenance.Call)
    (h : ∀ node pod, c = .createPod node pod →
      pod.metadata.namespace_ = some Maintenance.podNamespace) :
    (maintenance defaultNamespace c).Within fun r => Reads r ∨ CreatesPod r := by
  have hreads : ∀ {α : Type} {d : Dialogue α}, d.Within Reads →
      d.Within fun r => Reads r ∨ CreatesPod r := fun h => h.mono fun _ => .inl
  cases c with
  | listNodes =>
    refine Within.bind (hreads (list_within ..)) fun answer => ?_
    cases answer <;> trivial
  | createPod node pod =>
    have hpath : (pods Maintenance.podNamespace).path =
        "/api/v1/namespaces/kube-system/pods".toList := by decide
    have hplain : IsPlain "/api/v1/namespaces/kube-system/pods" := by decide
    rw [maintenance, h node pod rfl, Option.getD_some, Collection.create, hpath]
    refine Within.mapError (Within.mono (request_within ..) fun r h => .inr ⟨h.method, ?_⟩) _
    rw [h.path_eq, pathOf_of_isPlain hplain]
  | getPod namespace_ name =>
    exact Within.mapError (hreads (get_within ..)) _
  | getNode name =>
    exact Within.mapError (hreads (get_within ..)) _

/-! ## What answers a question of a rolling update -/

def controlPlaneListing : Request :=
  ⟨.get, "/apis/controlplane.cluster.x-k8s.io/v1alpha3/kubeadmcontrolplanes?".toList, none⟩

/-- The control planes are listed by one request, and are read from the response. -/
theorem every_listControlPlanes :
    (machines .listControlPlanes).Every fun xs v => ∃ response,
      xs = [⟨controlPlaneListing, response⟩] ∧ ∀ listed, v = .ok listed →
        response.object (Collection.readList Resource.ofJson?) = .ok listed := by
  have haddress : Address.ofText ((controlPlanes none).path ++ ['?']) =
      .ok controlPlaneListing.address := by decide +kernel
  refine Every.bind_done (Every.mono (every_request ..) ?_)
  rintro xs v (⟨cause, hcause, -, -⟩ | ⟨⟨method, address, content⟩, response, hsends, rfl, rfl⟩)
  · cases haddress.symm.trans hcause
  · cases hsends.method
    cases hsends.content
    cases haddress.symm.trans hsends.address
    refine ⟨response, rfl, fun listed hlisted => ?_⟩
    cases hobject : response.object (Collection.readList Resource.ofJson?) with
    | error cause =>
      rw [hobject] at hlisted
      cases hlisted
    | ok found =>
      rw [hobject] at hlisted
      cases hlisted
      rfl

theorem getTemplate_within (reference : Machines.TemplateReference) :
    (machines (.getTemplate reference)).Within Reads :=
  Within.mapError (get_within ..) _

/-- A copy is created by one request, or by none, and then the answer is an error. -/
theorem every_createTemplate (reference : Machines.TemplateReference) (template : Resource) :
    (machines (.createTemplate reference template)).Every fun xs v =>
      (xs = [] ∧ ∃ cause, v = .error cause) ∨
        ∃ r response, xs = [⟨r, response⟩] ∧ r.method = .post := by
  refine Every.bind_done (Every.mono (every_request ..) ?_)
  rintro xs v (⟨cause, -, rfl, rfl⟩ | ⟨r, response, hsends, rfl, rfl⟩)
  · exact .inl ⟨rfl, _, rfl⟩
  · exact .inr ⟨r, response, rfl, hsends.method⟩

structure Patches (namespace_ name : String) (r : Request) : Prop where
  method : r.method = .patch
  path : r.path = pathOf ("/apis/controlplane.cluster.x-k8s.io/v1alpha3/namespaces/" ++
    namespace_ ++ "/" ++ "kubeadmcontrolplanes" ++ "/" ++ name)

/-- A control plane is patched by one request, or by none. -/
theorem every_patchControlPlane (plane : Machines.ControlPlane) (patch : Json.Patch) :
    (machines (.patchControlPlane plane patch)).Every fun xs _ =>
      xs = [] ∨ ∃ r response, xs = [⟨r, response⟩] ∧ Patches plane.namespace_ plane.name r := by
  have hrequest := every_request .patch
    ((controlPlanes (some plane.namespace_)).objectPath plane.name ++ ['?'])
    (some ⟨Collection.patchType, patch.toJson⟩) Resource.ofJson?
  refine Every.bind hrequest ?_
  rintro xs v (⟨cause, -, rfl, rfl⟩ | ⟨r, response, hsends, rfl, rfl⟩)
  · exact .inl rfl
  · rw [objectPath_controlPlane] at hsends
    cases response.object Resource.ofJson? with
    | error cause => exact .inr ⟨r, response, rfl, hsends.method, hsends.path_eq⟩
    | ok _ => exact .inr ⟨r, response, rfl, hsends.method, hsends.path_eq⟩

end CertRenewal.Server
