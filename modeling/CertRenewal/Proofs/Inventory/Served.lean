import CertRenewal.Inventory.Store
import CertRenewal.Proofs.Dialogue
import Mathlib.Data.List.Nodup
import Mathlib.Data.List.Pairwise

/-!
# A store that is asked for what it has

`Inventory.Store` passes over the deletion of an object that it does not have. `Served.respond`
refuses it, as a server does, and keeps a list of such deletions, so that a run that asks for none
can be told by the state that it leaves.

`Distinct` says that the objects of a namespace have names, and no two of them the same.
-/

namespace CertRenewal.Inventory

open CertRenewal.Cluster (Failure Metadata Node Pod Secret)
open CertRenewal.Inventory.Store (isIn isNamed selects)

/-- A store, and the deletions of objects that were not there. -/
structure Served where
  store : Store
  missed : List Call

namespace Served

def respond : (call : Call) → Served → call.Answer × Served
  | .listSecrets query, s => (.ok (s.store.secrets.filter (selects query)), s)
  | .getSecret namespace_ name, s => ((Store.respond (.getSecret namespace_ name) s.store).1, s)
  | .deleteSecret namespace_ name, s =>
    if s.store.secrets.any fun secret => isNamed namespace_ name secret.metadata then
      (.ok (), { s with store := (Store.respond (.deleteSecret namespace_ name) s.store).2 })
    else
      (.error ((Call.deleteSecret namespace_ name).failure (Failure.notFound name)),
        { s with missed := s.missed ++ [.deleteSecret namespace_ name] })
  | .listPods namespace_, s =>
    (.ok (s.store.pods.filter fun pod => isIn namespace_ pod.metadata), s)
  | .deletePod namespace_ name, s =>
    if s.store.pods.any fun pod => isNamed namespace_ name pod.metadata then
      (.ok (), { s with store := (Store.respond (.deletePod namespace_ name) s.store).2 })
    else
      (.error ((Call.deletePod namespace_ name).failure (Failure.notFound name)),
        { s with missed := s.missed ++ [.deletePod namespace_ name] })
  | .listNodes, s => (.ok s.store.nodes, s)

def withSecrets (s : Served) (secrets : List Secret) : Served :=
  { s with store := { s.store with secrets := secrets } }

def withPods (s : Served) (pods : List Pod) : Served :=
  { s with store := { s.store with pods := pods } }

/-- A secret that is there is deleted. -/
theorem respond_deleteSecret {s : Served} {namespace_ name : String}
    (h : ∃ secret ∈ s.store.secrets, isNamed namespace_ name secret.metadata = true) :
    respond (.deleteSecret namespace_ name) s =
      (.ok (), s.withSecrets
        (s.store.secrets.filter fun secret => !isNamed namespace_ name secret.metadata)) := by
  rw [respond, if_pos (List.any_eq_true.mpr h)]
  rfl

/-- A pod that is there is deleted. -/
theorem respond_deletePod {s : Served} {namespace_ name : String}
    (h : ∃ pod ∈ s.store.pods, isNamed namespace_ name pod.metadata = true) :
    respond (.deletePod namespace_ name) s =
      (.ok (), s.withPods
        (s.store.pods.filter fun pod => !isNamed namespace_ name pod.metadata)) := by
  rw [respond, if_pos (List.any_eq_true.mpr h)]
  rfl

end Served

/-! ## Names in a namespace -/

/-- The objects of a namespace have names, and no two of them the same. -/
structure Distinct {α : Type} (metadata : α → Metadata) (namespace_ : String) (objects : List α) :
    Prop where
  named : ∀ x ∈ objects, isIn namespace_ (metadata x) = true → (metadata x).name ≠ none
  apart : objects.Pairwise fun x y => isIn namespace_ (metadata x) = true →
    isIn namespace_ (metadata y) = true → (metadata x).name ≠ (metadata y).name

/-- A name counts in its namespace only. -/
theorem isNamed_iff {namespace_ name : String} {m : Metadata} :
    isNamed namespace_ name m = true ↔ isIn namespace_ m = true ∧ m.name = some name := by
  rw [isNamed, Bool.and_eq_true, beq_iff_eq]

/-- An object has one name. -/
theorem eq_of_isNamed {namespace_ name name' : String} {m : Metadata}
    (h : isNamed namespace_ name m = true) (h' : isNamed namespace_ name' m = true) :
    name = name' :=
  Option.some.inj ((isNamed_iff.mp h).2.symm.trans (isNamed_iff.mp h').2)

namespace Distinct

variable {α : Type} {metadata : α → Metadata} {namespace_ : String} {objects : List α}

/-- Fewer objects have distinct names, too. -/
theorem filter (h : Distinct metadata namespace_ objects) (keep : α → Bool) :
    Distinct metadata namespace_ (objects.filter keep) where
  named x hx := h.named x (List.mem_of_mem_filter hx)
  apart := h.apart.filter keep

/-- An object of the namespace has the name that people use for it. -/
theorem isNamed_anyName (h : Distinct metadata namespace_ objects) {x : α} (hx : x ∈ objects)
    (hin : isIn namespace_ (metadata x) = true) :
    isNamed namespace_ (metadata x).anyName (metadata x) = true := by
  obtain ⟨name, hname⟩ := Option.ne_none_iff_exists'.mp (h.named x hx hin)
  rw [isNamed_iff, Metadata.anyName, hname]
  exact ⟨hin, rfl⟩

/-- Two objects of one name are the same. -/
theorem eq_of_isNamed (h : Distinct metadata namespace_ objects) {name : String} {x y : α}
    (hx : x ∈ objects) (hy : y ∈ objects) (hxname : isNamed namespace_ name (metadata x) = true)
    (hyname : isNamed namespace_ name (metadata y) = true) : x = y := by
  obtain ⟨hxin, hxname⟩ := isNamed_iff.mp hxname
  obtain ⟨hyin, hyname⟩ := isNamed_iff.mp hyname
  by_contra hne
  have hsymm : Std.Symm fun x y => isIn namespace_ (metadata x) = true →
      isIn namespace_ (metadata y) = true → (metadata x).name ≠ (metadata y).name :=
    ⟨fun x y hxy hy hx => (hxy hx hy).symm⟩
  exact h.apart.forall hx hy hne hxin hyin (hxname.trans hyname.symm)

/-- The names of objects of the namespace are distinct. -/
theorem nodup_anyName (h : Distinct metadata namespace_ objects) {keep : α → Bool}
    (hkeep : ∀ x ∈ objects, keep x = true → isIn namespace_ (metadata x) = true) :
    ((objects.filter keep).map fun x => (metadata x).anyName).Nodup := by
  rw [List.Nodup, List.pairwise_map]
  refine (h.apart.filter keep).imp_of_mem ?_
  intro x y hx hy happart hsame
  obtain ⟨hx, hxkept⟩ := List.mem_filter.mp hx
  obtain ⟨hy, hykept⟩ := List.mem_filter.mp hy
  have hxname := (isNamed_iff.mp (h.isNamed_anyName hx (hkeep x hx hxkept))).2
  have hyname := (isNamed_iff.mp (h.isNamed_anyName hy (hkeep y hy hykept))).2
  refine happart (hkeep x hx hxkept) (hkeep y hy hykept) ?_
  rw [hxname, hyname, hsame]

/-- An object is the only one of its name. -/
theorem names_of_isNamed (h : Distinct metadata namespace_ objects) {name : String} {x : α}
    (hx : x ∈ objects) (hname : isNamed namespace_ name (metadata x) = true) :
    (objects.filter fun x => isNamed namespace_ name (metadata x)).map
      (fun x => (metadata x).anyName) = [name] := by
  have hin : ∀ x ∈ objects, isNamed namespace_ name (metadata x) = true →
      isIn namespace_ (metadata x) = true := fun x _ hname => (isNamed_iff.mp hname).1
  refine List.perm_singleton.mp ((List.perm_ext_iff_of_nodup (h.nodup_anyName hin)
    (List.nodup_singleton name)).mpr fun other => ?_)
  rw [List.mem_map, List.mem_singleton]
  constructor
  · rintro ⟨y, hy, rfl⟩
    obtain ⟨hy, hyname⟩ := List.mem_filter.mp hy
    exact Inventory.eq_of_isNamed (h.isNamed_anyName hy (hin y hy hyname)) hyname
  · rintro rfl
    refine ⟨x, List.mem_filter.mpr ⟨hx, hname⟩, ?_⟩
    exact Inventory.eq_of_isNamed (h.isNamed_anyName hx (hin x hx hname)) hname

end Distinct

/-! ## Several names -/

/-- Whether an object of a namespace has one of several names. -/
def isAmong (namespace_ : String) (names : List String) (m : Metadata) : Bool :=
  names.any fun name => isNamed namespace_ name m

theorem isAmong_iff {namespace_ : String} {names : List String} {m : Metadata} :
    isAmong namespace_ names m = true ↔ ∃ name ∈ names, isNamed namespace_ name m = true :=
  List.any_eq_true

theorem isAmong_singleton (namespace_ name : String) (m : Metadata) :
    isAmong namespace_ [name] m = isNamed namespace_ name m := by
  rw [isAmong, List.any_cons, List.any_nil, Bool.or_false]

/-- Objects without those of several names are those without the first and without the others. -/
theorem filter_not_isAmong_cons {α : Type} (metadata : α → Metadata) (namespace_ name : String)
    (names : List String) (objects : List α) :
    (objects.filter fun x => !isAmong namespace_ (name :: names) (metadata x)) =
      (objects.filter fun x => !isNamed namespace_ name (metadata x)).filter
        fun x => !isAmong namespace_ names (metadata x) := by
  rw [List.filter_filter]
  refine List.filter_congr fun x _ => ?_
  rw [isAmong, List.any_cons, Bool.not_or, Bool.and_comm]
  rfl

/-- An object has the name of one of those that are kept exactly when it is kept itself. -/
theorem Distinct.isAmong_filter {α : Type} {metadata : α → Metadata} {namespace_ : String}
    {objects : List α} (h : Distinct metadata namespace_ objects) {keep : α → Bool}
    (hkeep : ∀ x ∈ objects, keep x = true → isIn namespace_ (metadata x) = true) {x : α}
    (hx : x ∈ objects) :
    isAmong namespace_ ((objects.filter keep).map fun x => (metadata x).anyName) (metadata x) =
      keep x := by
  rw [Bool.eq_iff_iff, isAmong_iff]
  constructor
  · rintro ⟨name, hname, hnamed⟩
    obtain ⟨other, hother, rfl⟩ := List.mem_map.mp hname
    obtain ⟨hother, hkept⟩ := List.mem_filter.mp hother
    rw [h.eq_of_isNamed hx hother hnamed (h.isNamed_anyName hother (hkeep other hother hkept))]
    exact hkept
  · intro hkept
    exact ⟨(metadata x).anyName, List.mem_map_of_mem (List.mem_filter.mpr ⟨hx, hkept⟩),
      h.isNamed_anyName hx (hkeep x hx hkept)⟩

/-- An object that is there is still there when one of another name is gone. -/
theorem exists_isNamed_filter {α : Type} {metadata : α → Metadata} {namespace_ gone name : String}
    {objects : List α} (hne : name ≠ gone)
    (h : ∃ x ∈ objects, isNamed namespace_ name (metadata x) = true) :
    ∃ x ∈ objects.filter fun x => !isNamed namespace_ gone (metadata x),
      isNamed namespace_ name (metadata x) = true := by
  obtain ⟨x, hx, hname⟩ := h
  refine ⟨x, List.mem_filter.mpr ⟨hx, ?_⟩, hname⟩
  rw [Bool.not_eq_true']
  by_contra hgone
  exact hne (eq_of_isNamed hname (Bool.not_eq_false _ ▸ hgone))

end CertRenewal.Inventory
