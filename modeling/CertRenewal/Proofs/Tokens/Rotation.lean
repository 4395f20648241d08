import CertRenewal.Proofs.Inventory.Served
import CertRenewal.Tokens.Rotation
import Mathlib.Data.List.Nodup

/-!
# What a rotation of tokens leaves

A rotation lists the pods anew for every token, after the pods of the tokens before it have been
deleted. `rotated` says which pods that makes for each token: those of which it is the first token
that they mount. `run_deletePods`, `run_rotateOne` and `run_rotateAll` follow a rotation from the
inside out, each with all that it does to the store; `rotate_leaves_rest` is the main statement.
-/

namespace CertRenewal

/-! ## Volumes -/

theorem Json.getString?_eq_some_iff {key s : String} {value : Json} :
    value.getString? key = some s ↔ value.get? key = some (.string s) := by
  rw [Json.getString?, Option.bind_eq_some_iff]
  constructor
  · rintro ⟨field, hfield, hs⟩
    cases field <;> cases hs
    exact hfield
  · exact fun h => ⟨_, h, rfl⟩

namespace Cluster.Pod

/-- A pod has a volume of a name if an item of the volumes in its spec gives the name. -/
def HasVolume (pod : Pod) (name : String) : Prop :=
  ∃ spec volumes volume, pod.spec = some spec ∧ spec.get? "volumes" = some (.array volumes) ∧
    volume ∈ volumes ∧ volume.get? "name" = some (.string name)

/-- The names of the volumes are those of which the pod has a volume. -/
theorem mem_volumeNames_iff {pod : Pod} {name : String} :
    name ∈ pod.volumeNames ↔ pod.HasVolume name := by
  rw [volumeNames]
  constructor
  · intro hname
    split at hname
    · rename_i volumes hvolumes
      obtain ⟨spec, hspec, hfield⟩ := Option.bind_eq_some_iff.mp hvolumes
      obtain ⟨volume, hvolume, htext⟩ := List.mem_filterMap.mp hname
      cases volumes with
      | array items =>
        exact ⟨spec, items, volume, hspec, hfield, hvolume, Json.getString?_eq_some_iff.mp htext⟩
      | null | bool | number | string | object => cases hvolume
    · cases hname
  · rintro ⟨spec, volumes, volume, hspec, hfield, hvolume, htext⟩
    rw [hspec, Option.bind_some, hfield]
    exact List.mem_filterMap.mpr ⟨volume, hvolume, Json.getString?_eq_some_iff.mpr htext⟩

instance (pod : Pod) (name : String) : Decidable (pod.HasVolume name) :=
  decidable_of_iff _ mem_volumeNames_iff

/-- The test of the program is the one on the spec. -/
theorem contains_volumeNames (pod : Pod) (name : String) :
    pod.volumeNames.contains name = decide (pod.HasVolume name) := by
  rw [List.contains_eq_mem, decide_eq_decide]
  exact mem_volumeNames_iff

end Cluster.Pod

namespace Tokens

open CertRenewal.Cluster (Metadata Pod Secret)
open CertRenewal.Inventory
  (Call Distinct Served Store eq_of_isNamed exists_isNamed_filter filter_not_isAmong_cons isAmong
    isAmong_iff isAmong_singleton isNamed_iff)
open CertRenewal.Inventory.Served (respond)
open CertRenewal.Inventory.Store (isIn isNamed selects)

/-! ## What is to be deleted -/

/-- Whether a pod of a namespace mounts one of several tokens, which is to have a volume of its
name. -/
def mountsAny (namespace_ : String) (tokens : List String) (pod : Pod) : Bool :=
  isIn namespace_ pod.metadata && tokens.any fun token => pod.HasVolume token

/-- Whether a token is the first of several that a pod of a namespace mounts. -/
def mountsFirst (namespace_ : String) (tokens : List String) (token : String) (pod : Pod) : Bool :=
  isIn namespace_ pod.metadata &&
    tokens.find? (fun token => pod.HasVolume token) == some token

def rotated (namespace_ : String) (tokens : List String) (pods : List Pod) : List RotatedToken :=
  tokens.map fun token =>
    ⟨token, (pods.filter (mountsFirst namespace_ tokens token)).map (·.metadata.anyName)⟩

def afterRotation (namespace_ : String) (tokens : List String) (s : Served) : Served :=
  (s.withSecrets (s.store.secrets.filter fun secret => !isAmong namespace_ tokens secret.metadata))
    |>.withPods (s.store.pods.filter fun pod => !mountsAny namespace_ tokens pod)

/-! ## Questions -/

/-- What follows a question, if it is answered. -/
def goOn {α β : Type} (next : α → Inventory.Dialogue (Except Error β)) :
    Except Inventory.Error α → Inventory.Dialogue (Except Error β)
  | .error cause => .done (.error (.inventory cause))
  | .ok answer => next answer

theorem deletePods_cons (namespace_ name : String) (rest : List String) :
    deletePods namespace_ (name :: rest) =
      .ask (.deletePod namespace_ name) (goOn fun _ =>
        (deletePods namespace_ rest).andThen fun names => .done (.ok (name :: names))) := by
  refine congrArg (Dialogue.ask _) (funext fun answer => ?_)
  cases answer <;> rfl

theorem rotateOne_eq (namespace_ secret : String) :
    rotateOne namespace_ secret =
      .ask (.deleteSecret namespace_ secret) (goOn fun _ =>
        .ask (.listPods namespace_) (goOn fun pods =>
          (deletePods namespace_ (mounting secret pods)).andThen fun names =>
            .done (.ok ⟨secret, names⟩))) := by
  refine congrArg (Dialogue.ask _) (funext fun answer => ?_)
  cases answer with
  | error cause => rfl
  | ok answer =>
    refine congrArg (Dialogue.ask _) (funext fun answer => ?_)
    cases answer <;> rfl

variable {namespace_ : String} {s : Served} (pause : Nat → Served → Served)

/-! ## Pods -/

/-- Pods that are there are deleted, and none besides them. -/
theorem run_deletePods {names : List String} (hnodup : names.Nodup)
    (hthere : ∀ name ∈ names, ∃ pod ∈ s.store.pods, isNamed namespace_ name pod.metadata = true) :
    (deletePods namespace_ names).run respond pause s =
      (.ok names, s.withPods
        (s.store.pods.filter fun pod => !isAmong namespace_ names pod.metadata)) := by
  induction names generalizing s with
  | nil =>
    rw [deletePods, Dialogue.run_done, List.filter_eq_self.mpr (by simp [isAmong])]
    rfl
  | cons name rest ih =>
    obtain ⟨hname, hrest⟩ := List.nodup_cons.mp hnodup
    obtain ⟨hfirst, hothers⟩ := List.forall_mem_cons.mp hthere
    let s₁ := s.withPods (s.store.pods.filter fun pod => !isNamed namespace_ name pod.metadata)
    have hstill : ∀ other ∈ rest, ∃ pod ∈ s₁.store.pods,
        isNamed namespace_ other pod.metadata = true := by
      intro other hother
      exact exists_isNamed_filter (fun heq => hname (heq ▸ hother)) (hothers other hother)
    rw [deletePods_cons]
    refine (Dialogue.run_ask_of_answer respond pause _ (Served.respond_deletePod hfirst)).trans ?_
    show ((deletePods namespace_ rest).andThen _).run respond pause s₁ = _
    rw [Dialogue.run_andThen_ok respond pause _ (ih hrest hstill), Dialogue.run_done,
      filter_not_isAmong_cons]
    rfl

/-! ## One token -/

/-- The pods that are deleted for a token are those of the namespace that mount it. -/
theorem mounting_eq (namespace_ token : String) (pods : List Pod) :
    mounting token (pods.filter fun pod => isIn namespace_ pod.metadata) =
      (pods.filter (mountsAny namespace_ [token])).map (·.metadata.anyName) := by
  rw [mounting, List.filter_filter]
  refine congrArg _ (List.filter_congr fun pod _ => ?_)
  rw [mountsAny, List.any_cons, List.any_nil, Bool.or_false, Bool.and_comm,
    Pod.contains_volumeNames]

theorem isIn_of_mountsAny {tokens : List String} {pod : Pod}
    (h : mountsAny namespace_ tokens pod = true) : isIn namespace_ pod.metadata = true :=
  (Bool.and_eq_true _ _ ▸ h).1

/-- What one rotation does: the secret is gone, and so are the pods that mount it. -/
theorem run_rotateOne {token : String} (hpods : Distinct Pod.metadata namespace_ s.store.pods)
    (hthere : ∃ secret ∈ s.store.secrets, isNamed namespace_ token secret.metadata = true) :
    (rotateOne namespace_ token).run respond pause s =
      (.ok ⟨token, (s.store.pods.filter (mountsAny namespace_ [token])).map (·.metadata.anyName)⟩,
        afterRotation namespace_ [token] s) := by
  let names := (s.store.pods.filter (mountsAny namespace_ [token])).map (·.metadata.anyName)
  let s₁ := s.withSecrets
    (s.store.secrets.filter fun secret => !isNamed namespace_ token secret.metadata)
  have hin : ∀ pod ∈ s.store.pods, mountsAny namespace_ [token] pod = true →
      isIn namespace_ pod.metadata = true := fun pod _ hmounts => isIn_of_mountsAny hmounts
  have hnodup : names.Nodup := hpods.nodup_anyName hin
  have hnames : ∀ name ∈ names, ∃ pod ∈ s₁.store.pods,
      isNamed namespace_ name pod.metadata = true := by
    intro name hname
    obtain ⟨pod, hpod, rfl⟩ := List.mem_map.mp hname
    obtain ⟨hpod, hmounts⟩ := List.mem_filter.mp hpod
    exact ⟨pod, hpod, hpods.isNamed_anyName hpod (hin pod hpod hmounts)⟩
  rw [rotateOne_eq]
  refine (Dialogue.run_ask_of_answer respond pause _
    (Served.respond_deleteSecret hthere)).trans ?_
  show ((deletePods namespace_ (mounting token
    (s.store.pods.filter fun pod => isIn namespace_ pod.metadata))).andThen _).run respond pause
      s₁ = _
  rw [mounting_eq, Dialogue.run_andThen_ok respond pause _ (run_deletePods pause hnodup hnames),
    Dialogue.run_done]
  refine congrArg (Prod.mk _) ?_
  have hgone : (s.store.pods.filter fun pod => !isAmong namespace_ names pod.metadata) =
      s.store.pods.filter fun pod => !mountsAny namespace_ [token] pod :=
    List.filter_congr fun pod hpod => congrArg (!·) (hpods.isAmong_filter hin hpod)
  show s₁.withPods (s.store.pods.filter fun pod => !isAmong namespace_ names pod.metadata) = _
  rw [hgone, afterRotation]
  simp only [isAmong_singleton]
  rfl

/-! ## Several tokens -/

theorem mountsAny_cons (namespace_ token : String) (rest : List String) (pod : Pod) :
    mountsAny namespace_ (token :: rest) pod =
      (mountsAny namespace_ [token] pod || mountsAny namespace_ rest pod) := by
  simp only [mountsAny, List.any_cons, List.any_nil, Bool.or_false, Bool.and_or_distrib_left]

/-- The first of several tokens is the first that a pod mounts when the pod mounts it at all. -/
theorem mountsFirst_head {token : String} {rest : List String} (h : token ∉ rest) (pod : Pod) :
    mountsFirst namespace_ (token :: rest) token pod = mountsAny namespace_ [token] pod := by
  have hlater : rest.find? (fun token => pod.HasVolume token) ≠ some token :=
    fun hfound => h (List.mem_of_find?_eq_some hfound)
  rw [mountsFirst, mountsAny, List.find?_cons, List.any_cons, List.any_nil, Bool.or_false]
  cases decide (pod.HasVolume token) with
  | true => simp only [beq_self_eq_true]
  | false => simp only [beq_false_of_ne hlater]

/-- Another token is the first that a pod mounts when the pod does not mount the first of all, and
it is the first of the others that the pod mounts. -/
theorem mountsFirst_tail {token other : String} (rest : List String) (hne : other ≠ token)
    (pod : Pod) :
    mountsFirst namespace_ (token :: rest) other pod =
      (mountsFirst namespace_ rest other pod && !mountsAny namespace_ [token] pod) := by
  have hnot : some token ≠ some other := fun heq => hne (Option.some.inj heq).symm
  rw [mountsFirst, mountsFirst, mountsAny, List.find?_cons, List.any_cons, List.any_nil,
    Bool.or_false]
  cases decide (pod.HasVolume token) with
  | true => cases isIn namespace_ pod.metadata <;> simp [beq_false_of_ne hnot]
  | false => simp only [Bool.and_false, Bool.not_false, Bool.and_true]

theorem rotated_cons {token : String} {rest : List String} (h : token ∉ rest) (pods : List Pod) :
    rotated namespace_ (token :: rest) pods =
      ⟨token, (pods.filter (mountsAny namespace_ [token])).map (·.metadata.anyName)⟩ ::
        rotated namespace_ rest (pods.filter fun pod => !mountsAny namespace_ [token] pod) := by
  rw [rotated, List.map_cons]
  refine congrArg₂ List.cons ?_ (List.map_congr_left fun other hother => ?_)
  · rw [List.filter_congr fun pod _ => mountsFirst_head h pod]
  · have hne : other ≠ token := fun heq => h (heq ▸ hother)
    rw [List.filter_filter, List.filter_congr fun pod _ => mountsFirst_tail rest hne pod]

/-- Rotating one token and then others is rotating all of them. -/
theorem afterRotation_cons (namespace_ token : String) (rest : List String) (s : Served) :
    afterRotation namespace_ rest (afterRotation namespace_ [token] s) =
      afterRotation namespace_ (token :: rest) s := by
  have hsecrets : ∀ secrets : List Secret,
      ((secrets.filter fun x => !isAmong namespace_ [token] x.metadata).filter
        fun x => !isAmong namespace_ rest x.metadata) =
      secrets.filter fun x => !isAmong namespace_ (token :: rest) x.metadata := by
    intro secrets
    simp only [isAmong_singleton]
    rw [filter_not_isAmong_cons Secret.metadata]
  have hpods : ∀ pods : List Pod,
      ((pods.filter fun pod => !mountsAny namespace_ [token] pod).filter
        fun pod => !mountsAny namespace_ rest pod) =
      pods.filter fun pod => !mountsAny namespace_ (token :: rest) pod := by
    intro pods
    rw [List.filter_filter]
    refine List.filter_congr fun pod _ => ?_
    rw [mountsAny_cons namespace_ token rest, Bool.not_or, Bool.and_comm]
  rw [afterRotation, afterRotation, afterRotation, ← hsecrets, ← hpods]
  rfl

/-- What the rotations of several tokens do. The induction is on the tokens; the pods that are left
by the first rotation have distinct names again, and the secrets of the other tokens are left. -/
theorem run_rotateAll {tokens : List String} (hnodup : tokens.Nodup)
    (hpods : Distinct Pod.metadata namespace_ s.store.pods)
    (hthere : ∀ token ∈ tokens,
      ∃ secret ∈ s.store.secrets, isNamed namespace_ token secret.metadata = true) :
    (rotateAll namespace_ tokens).run respond pause s =
      (.ok (rotated namespace_ tokens s.store.pods), afterRotation namespace_ tokens s) := by
  induction tokens generalizing s with
  | nil =>
    have hpods : (s.store.pods.filter fun pod => !mountsAny namespace_ [] pod) = s.store.pods :=
      List.filter_eq_self.mpr (by simp [mountsAny])
    have hsecrets : (s.store.secrets.filter fun secret =>
        !isAmong namespace_ [] secret.metadata) = s.store.secrets :=
      List.filter_eq_self.mpr (by simp [isAmong])
    rw [rotateAll, Dialogue.run_done, afterRotation, hpods, hsecrets]
    rfl
  | cons token rest ih =>
    obtain ⟨htoken, hrest⟩ := List.nodup_cons.mp hnodup
    obtain ⟨hfirst, hothers⟩ := List.forall_mem_cons.mp hthere
    have hstill : ∀ other ∈ rest, ∃ secret ∈ (afterRotation namespace_ [token] s).store.secrets,
        isNamed namespace_ other secret.metadata = true := by
      intro other hother
      have hne : other ≠ token := fun heq => htoken (heq ▸ hother)
      obtain ⟨secret, hsecret, hnamed⟩ := exists_isNamed_filter hne (hothers other hother)
      refine ⟨secret, ?_, hnamed⟩
      show secret ∈ s.store.secrets.filter fun x => !isAmong namespace_ [token] x.metadata
      simpa only [isAmong_singleton] using hsecret
    rw [rotateAll, Dialogue.run_andThen_ok respond pause _ (run_rotateOne pause hpods hfirst),
      Dialogue.run_andThen_ok respond pause _ (ih hrest (hpods.filter _) hstill), Dialogue.run_done,
      afterRotation_cons, rotated_cons htoken]
    rfl

/-! ## The report -/

section

variable {tokens : List String} {pods : List Pod}

/-- A pod belongs to the first token in order that it mounts. -/
theorem mountsFirst_iff {token : String} {pod : Pod} :
    mountsFirst namespace_ tokens token pod = true ↔
      isIn namespace_ pod.metadata = true ∧
        tokens.find? (fun token => pod.HasVolume token) = some token := by
  rw [mountsFirst, Bool.and_eq_true, beq_iff_eq]

theorem mountsAny_of_mountsFirst {token : String} {pod : Pod}
    (h : mountsFirst namespace_ tokens token pod = true) :
    mountsAny namespace_ tokens pod = true := by
  obtain ⟨hin, hfirst⟩ := mountsFirst_iff.mp h
  have hany := List.any_eq_true.mpr
    ⟨token, List.mem_of_find?_eq_some hfirst, List.find?_some hfirst⟩
  rw [mountsAny, hin, hany]
  rfl

/-- A pod that mounts any token is listed under the first that it mounts, and under no other. -/
theorem mem_pods_iff (hpods : Distinct Pod.metadata namespace_ pods) {pod : Pod} (hpod : pod ∈ pods)
    (hin : isIn namespace_ pod.metadata = true) {entry : RotatedToken}
    (hentry : entry ∈ rotated namespace_ tokens pods) :
    pod.metadata.anyName ∈ entry.pods ↔
      tokens.find? (fun token => pod.HasVolume token) = some entry.secret := by
  obtain ⟨token, htoken, rfl⟩ := List.mem_map.mp hentry
  constructor
  · intro hmem
    obtain ⟨other, hother, hname⟩ := List.mem_map.mp hmem
    obtain ⟨hother, hmounts⟩ := List.mem_filter.mp hother
    obtain ⟨hotherin, hfirst⟩ := mountsFirst_iff.mp hmounts
    have hsame := hpods.isNamed_anyName hother hotherin
    rw [hname] at hsame
    rw [hpods.eq_of_isNamed hpod hother (hpods.isNamed_anyName hpod hin) hsame]
    exact hfirst
  · intro hfirst
    exact List.mem_map_of_mem (List.mem_filter.mpr ⟨hpod, mountsFirst_iff.mpr ⟨hin, hfirst⟩⟩)

/-- Every token is reported, in its order. -/
theorem map_secret_rotated (namespace_ : String) (tokens : List String) (pods : List Pod) :
    (rotated namespace_ tokens pods).map (·.secret) = tokens := by
  rw [rotated, List.map_map]
  exact List.map_id tokens

/-- A pod that mounts a token has its entry, which is the only one in which it is listed. -/
theorem exists_entry (hpods : Distinct Pod.metadata namespace_ pods) {pod : Pod}
    (hpod : pod ∈ pods) (hmounts : mountsAny namespace_ tokens pod = true) :
    ∃ entry ∈ rotated namespace_ tokens pods,
      tokens.find? (fun token => pod.HasVolume token) = some entry.secret ∧
      ∀ other ∈ rotated namespace_ tokens pods,
        pod.metadata.anyName ∈ other.pods ↔ other = entry := by
  obtain ⟨token, hfirst⟩ := Option.isSome_iff_exists.mp
    (List.find?_isSome.mpr (List.any_eq_true.mp (Bool.and_eq_true _ _ ▸ hmounts).2))
  refine ⟨_, List.mem_map_of_mem (List.mem_of_find?_eq_some hfirst), hfirst, ?_⟩
  intro other hother
  rw [mem_pods_iff hpods hpod (isIn_of_mountsAny hmounts) hother, hfirst]
  obtain ⟨token', htoken', rfl⟩ := List.mem_map.mp hother
  constructor
  · intro heq
    cases heq
    rfl
  · intro heq
    cases heq
    rfl

/-- Only pods that mount a token are listed. -/
theorem exists_pod_of_mem {entry : RotatedToken} (hentry : entry ∈ rotated namespace_ tokens pods)
    {name : String} (hname : name ∈ entry.pods) :
    ∃ pod ∈ pods, mountsAny namespace_ tokens pod = true ∧ pod.metadata.anyName = name := by
  obtain ⟨token, htoken, rfl⟩ := List.mem_map.mp hentry
  obtain ⟨pod, hpod, rfl⟩ := List.mem_map.mp hname
  obtain ⟨hpod, hmounts⟩ := List.mem_filter.mp hpod
  exact ⟨pod, hpod, mountsAny_of_mountsFirst hmounts, rfl⟩

/-- No pod is listed twice. -/
theorem nodup_rotated (hnodup : tokens.Nodup) (hpods : Distinct Pod.metadata namespace_ pods) :
    ((rotated namespace_ tokens pods).flatMap (·.pods)).Nodup := by
  rw [rotated, List.flatMap_map, List.nodup_flatMap]
  constructor
  · intro token htoken
    exact hpods.nodup_anyName fun pod _ hmounts => (mountsFirst_iff.mp hmounts).1
  · refine hnodup.imp ?_
    intro token other hne name hname hother
    obtain ⟨pod, hpod, rfl⟩ := List.mem_map.mp hname
    obtain ⟨hpod, hmounts⟩ := List.mem_filter.mp hpod
    obtain ⟨hin, hfirst⟩ := mountsFirst_iff.mp hmounts
    obtain ⟨pod', hpod', hname⟩ := List.mem_map.mp hother
    obtain ⟨hpod', hmounts'⟩ := List.mem_filter.mp hpod'
    obtain ⟨hin', hfirst'⟩ := mountsFirst_iff.mp hmounts'
    have hsame := hpods.isNamed_anyName hpod' hin'
    rw [hname] at hsame
    rw [hpods.eq_of_isNamed hpod hpod' (hpods.isNamed_anyName hpod hin) hsame] at hfirst
    exact hne (Option.some.inj (hfirst.symm.trans hfirst'))

end

/-- What a rotation of the secrets of a kind comes to, with what it reports and what is served
then. -/
structure Rotation (namespace_ : String) (isToken : Secret → Bool) (s : Served)
    (result : List RotatedToken) (s' : Served) : Prop where
  /-- There is one entry for each token, in the order of the listing. -/
  entries : result.map (·.secret) = (s.store.secrets.filter isToken).map (·.metadata.anyName)
  /-- Every pod of the namespace that mounts a token is listed in one entry, which is that of the
  first token that it mounts. -/
  owned : ∀ pod ∈ s.store.pods, mountsAny namespace_ (result.map (·.secret)) pod = true →
    ∃ entry ∈ result,
      (result.map (·.secret)).find? (fun token => pod.HasVolume token) =
        some entry.secret ∧
      ∀ other ∈ result, pod.metadata.anyName ∈ other.pods ↔ other = entry
  /-- Nothing else is listed. -/
  listed : ∀ entry ∈ result, ∀ name ∈ entry.pods,
    ∃ pod ∈ s.store.pods, mountsAny namespace_ (result.map (·.secret)) pod = true ∧
      pod.metadata.anyName = name
  once : (result.flatMap (·.pods)).Nodup
  /-- The tokens are gone, and so are the pods of the namespace that mount one. Nothing else is
  changed, and no deletion was asked for of an object that was not there. -/
  state : s' =
    (s.withSecrets (s.store.secrets.filter fun secret => !isToken secret)).withPods
      (s.store.pods.filter fun pod => !mountsAny namespace_ (result.map (·.secret)) pod)

/-- What the rotations of the secrets of a kind come to. -/
theorem rotation_of_kind (isToken : Secret → Bool)
    (hsecrets : Distinct Secret.metadata namespace_ s.store.secrets)
    (hpods : Distinct Pod.metadata namespace_ s.store.pods)
    (hin : ∀ secret ∈ s.store.secrets, isToken secret = true →
      isIn namespace_ secret.metadata = true) :
    ∃ result s',
      (rotateAll namespace_ ((s.store.secrets.filter isToken).map (·.metadata.anyName))).run
        respond pause s = (.ok result, s') ∧
      Rotation namespace_ isToken s result s' := by
  have hnodup := hsecrets.nodup_anyName hin
  have hthere : ∀ token ∈ (s.store.secrets.filter isToken).map (·.metadata.anyName),
      ∃ secret ∈ s.store.secrets, isNamed namespace_ token secret.metadata = true := by
    intro token htoken
    obtain ⟨secret, hsecret, rfl⟩ := List.mem_map.mp htoken
    obtain ⟨hsecret, hkind⟩ := List.mem_filter.mp hsecret
    exact ⟨secret, hsecret, hsecrets.isNamed_anyName hsecret (hin secret hsecret hkind)⟩
  have hgone : (s.store.secrets.filter fun secret => !isAmong namespace_
      ((s.store.secrets.filter isToken).map (·.metadata.anyName)) secret.metadata) =
      s.store.secrets.filter fun secret => !isToken secret :=
    List.filter_congr fun secret hsecret =>
      congrArg (!·) (hsecrets.isAmong_filter hin hsecret)
  have hrun := run_rotateAll pause hnodup hpods hthere
  generalize htokens : (s.store.secrets.filter isToken).map (·.metadata.anyName) = tokens
    at hrun hnodup hgone
  have hentries := map_secret_rotated namespace_ tokens s.store.pods
  refine ⟨_, _, hrun, ?_⟩
  refine {
    entries := hentries.trans htokens.symm, owned := ?owned, listed := ?listed,
    once := nodup_rotated hnodup hpods, state := ?state }
  case owned =>
    rw [hentries]
    intro pod hpod hmounts
    exact exists_entry hpods hpod hmounts
  case listed =>
    rw [hentries]
    intro entry hentry name hname
    exact exists_pod_of_mem hentry hname
  case state =>
    rw [hentries, afterRotation, hgone]

/-! ## The names of the tokens -/

def holdsToken (namespace_ : String) (secret : Secret) : Bool :=
  isIn namespace_ secret.metadata && secret.type == some tokenType

theorem tokenNames_none (namespace_ : String) :
    tokenNames namespace_ none =
      .ask (.listSecrets ⟨some namespace_, some tokenType⟩) (goOn fun secrets =>
        .done (if secrets.isEmpty then .error (.noTokens namespace_)
          else .ok (secrets.map (·.metadata.anyName)))) := by
  refine congrArg (Dialogue.ask _) (funext fun answer => ?_)
  match answer with
  | .error cause => rfl
  | .ok [] => rfl
  | .ok (secret :: rest) => rfl

/-- A token that is named must exist and hold a token. -/
theorem tokenNames_some (namespace_ name : String) :
    tokenNames namespace_ (some name) =
      .ask (.getSecret namespace_ name) (goOn fun secret =>
        .done (if secret.type = some tokenType then .ok [name] else .error (.notToken name))) := by
  refine congrArg (Dialogue.ask _) (funext fun answer => ?_)
  cases answer <;> rfl

/-- All tokens of a namespace, when there are any. -/
theorem run_tokenNames_none
    (h : ∃ secret ∈ s.store.secrets, holdsToken namespace_ secret = true) :
    (tokenNames namespace_ none).run respond pause s =
      (.ok ((s.store.secrets.filter (holdsToken namespace_)).map (·.metadata.anyName)), s) := by
  obtain ⟨secret, hsecret, hholds⟩ := h
  have hnonempty : (s.store.secrets.filter (holdsToken namespace_)).isEmpty = false := by
    rw [List.isEmpty_eq_false_iff]
    exact List.ne_nil_of_mem (List.mem_filter.mpr ⟨hsecret, hholds⟩)
  rw [tokenNames_none]
  show (if (s.store.secrets.filter (holdsToken namespace_)).isEmpty then _ else _, s) = _
  rw [hnonempty]
  rfl

/-- One token, when it is there. -/
theorem run_tokenNames_some {name : String}
    (hsecrets : Distinct Secret.metadata namespace_ s.store.secrets) {secret : Secret}
    (hsecret : secret ∈ s.store.secrets) (hnamed : isNamed namespace_ name secret.metadata = true)
    (htype : secret.type = some tokenType) :
    (tokenNames namespace_ (some name)).run respond pause s = (.ok [name], s) := by
  have hfound : s.store.secrets.find? (fun x => isNamed namespace_ name x.metadata) =
      some secret := by
    cases hfind : s.store.secrets.find? fun x => isNamed namespace_ name x.metadata with
    | none => exact absurd hnamed (List.find?_eq_none.mp hfind secret hsecret)
    | some other =>
      have hother : isNamed namespace_ name other.metadata = true := by
        simpa only using List.find?_some hfind
      rw [hsecrets.eq_of_isNamed hsecret (List.mem_of_find?_eq_some hfind) hnamed hother]
  have hanswer : respond (.getSecret namespace_ name) s = (.ok secret, s) := by
    rw [respond, Store.respond, hfound]
  rw [tokenNames_some]
  refine (Dialogue.run_ask_of_answer respond pause _ hanswer).trans ?_
  show (if secret.type = some tokenType then _ else _, s) = _
  rw [if_pos htype]

/-! ## Rotations -/

/-- In a namespace whose secrets and pods have distinct names, the rotation of all tokens succeeds
when there are any, and the rotation of one when it is there. All that it changes is that the tokens
are gone, and the pods that mount one. -/
theorem rotate_leaves_rest (hsecrets : Distinct Secret.metadata namespace_ s.store.secrets)
    (hpods : Distinct Pod.metadata namespace_ s.store.pods) :
    ((∃ secret ∈ s.store.secrets, holdsToken namespace_ secret = true) →
      ∃ result s', (rotate namespace_ none).run respond pause s = (.ok result, s') ∧
        Rotation namespace_ (holdsToken namespace_) s result s') ∧
    ∀ name, (∃ secret ∈ s.store.secrets,
        isNamed namespace_ name secret.metadata = true ∧ secret.type = some tokenType) →
      ∃ result s', (rotate namespace_ (some name)).run respond pause s = (.ok result, s') ∧
        Rotation namespace_ (fun secret => isNamed namespace_ name secret.metadata)
          s result s' := by
  constructor
  · intro htokens
    have hin : ∀ secret ∈ s.store.secrets, holdsToken namespace_ secret = true →
        isIn namespace_ secret.metadata = true :=
      fun secret _ hholds => (Bool.and_eq_true _ _ ▸ hholds).1
    obtain ⟨result, s', hrun, hrotation⟩ := rotation_of_kind pause _ hsecrets hpods hin
    refine ⟨result, s', ?_, hrotation⟩
    rw [rotate, Dialogue.run_andThen_ok respond pause _ (run_tokenNames_none pause htokens)]
    exact hrun
  · rintro name ⟨secret, hsecret, hnamed, htype⟩
    have hin : ∀ secret ∈ s.store.secrets, isNamed namespace_ name secret.metadata = true →
        isIn namespace_ secret.metadata = true := fun secret _ hnamed => (isNamed_iff.mp hnamed).1
    obtain ⟨result, s', hrun, hrotation⟩ := rotation_of_kind pause
      (fun secret => isNamed namespace_ name secret.metadata) hsecrets hpods hin
    have hname : (s.store.secrets.filter fun secret => isNamed namespace_ name secret.metadata).map
        (·.metadata.anyName) = [name] := hsecrets.names_of_isNamed hsecret hnamed
    rw [hname] at hrun
    refine ⟨result, s', ?_, hrotation⟩
    rw [rotate, Dialogue.run_andThen_ok respond pause _
      (run_tokenNames_some pause hsecrets hsecret hnamed htype)]
    exact hrun

/-! ## A namespace -/

def plainMetadata (name : String) : Metadata := ⟨some name, none, some "app", none, none, none, []⟩

def plainSecret (name type : String) : Secret := ⟨plainMetadata name, some type, none, []⟩

def plainPod (name : String) (volumes : List String) : Pod where
  metadata := plainMetadata name
  spec := some (.object [("volumes",
    .array (volumes.map fun volume => .object [("name", .string volume)]))])
  status := none

/-- Two tokens and a password, with a pod that mounts both tokens, one that mounts the first of them
and one that mounts none. -/
def plainServed : Served where
  store :=
    { secrets := [plainSecret "first" tokenType, plainSecret "password" "Opaque",
        plainSecret "second" tokenType]
      pods := [plainPod "worker" ["second", "first"], plainPod "web" ["first"],
        plainPod "idle" ["password"]]
      nodes := [] }
  missed := []

theorem distinct_plainServed_secrets :
    Distinct Secret.metadata "app" plainServed.store.secrets :=
  ⟨by decide, by decide⟩

theorem distinct_plainServed_pods : Distinct Pod.metadata "app" plainServed.store.pods :=
  ⟨by decide, by decide⟩

/-- A rotation of all tokens, and one of the second token only. -/
theorem rotate_plain_leaves_rest :
    (∃ result s', (rotate "app" none).run respond (fun _ s => s) plainServed = (.ok result, s') ∧
      Rotation "app" (holdsToken "app") plainServed result s') ∧
    ∃ result s', (rotate "app" (some "second")).run respond (fun _ s => s) plainServed =
        (.ok result, s') ∧
      Rotation "app" (fun secret => isNamed "app" "second" secret.metadata) plainServed result s' :=
  have h := rotate_leaves_rest (fun _ s => s) distinct_plainServed_secrets
    distinct_plainServed_pods
  ⟨h.1 ⟨_, .head _, by decide⟩, h.2 "second" ⟨_, .tail _ (.tail _ (.head _)), by decide, rfl⟩⟩

end Tokens

end CertRenewal
