import CertRenewal.Json.Basic
import Mathlib.Data.String.Basic

/-!
# Documents in canonical form

`Ordered` says of a value that the keys of every object in it increase, so that no key is given
twice. `canonical` makes every value ordered (`ordered_canonical`) and leaves an ordered one as it
is (`Ordered.canonical_eq`), so that the ordered values are exactly its results.
-/

namespace CertRenewal.Json

namespace Fields

/-! ## Fields in key order -/

def Increasing (fields : Fields) : Prop := fields.Pairwise fun f g => f.1 < g.1

/-- A field that has been put in its place is the new one or an old one. -/
theorem mem_insert {key : String} {value : Json} {fields : Fields} {f : String × Json}
    (h : f ∈ Fields.insert key value fields) : f = (key, value) ∨ f ∈ fields := by
  induction fields with
  | nil => exact Or.inl (List.mem_singleton.mp h)
  | cons g rest ih =>
    rw [Fields.insert] at h
    split at h
    · rcases List.mem_cons.mp h with rfl | hmem
      · exact Or.inl rfl
      · exact Or.inr (List.mem_cons_of_mem _ hmem)
    · split at h
      · exact List.mem_cons.mp h
      · rcases List.mem_cons.mp h with rfl | hmem
        · exact Or.inr List.mem_cons_self
        · exact (ih hmem).imp_right (List.mem_cons_of_mem _)

/-- Putting a field in its place keeps the keys in order. -/
theorem Increasing.insert {fields : Fields} (key : String) (value : Json)
    (h : Increasing fields) : Increasing (Fields.insert key value fields) := by
  induction fields with
  | nil => exact List.pairwise_singleton _ _
  | cons g rest ih =>
    obtain ⟨hfirst, hrest⟩ := List.pairwise_cons.mp h
    rw [Fields.insert]
    split
    · rename_i heq
      exact List.pairwise_cons.mpr ⟨fun f hf => heq ▸ hfirst f hf, hrest⟩
    · rename_i hne
      split
      · rename_i hlt
        refine List.pairwise_cons.mpr ⟨fun f hf => ?_, h⟩
        rcases List.mem_cons.mp hf with rfl | hmem
        · exact hlt
        · exact lt_trans hlt (hfirst f hmem)
      · rename_i hnlt
        refine List.pairwise_cons.mpr ⟨fun f hf => ?_, ih hrest⟩
        rcases mem_insert hf with rfl | hmem
        · exact lt_of_le_of_ne (not_lt.mp hnlt) (Ne.symm hne)
        · exact hfirst f hmem

/-- A field whose key is greater than all others is put at the end. -/
theorem insert_of_greater {key : String} (value : Json) {fields : Fields}
    (h : ∀ f ∈ fields, f.1 < key) : Fields.insert key value fields = fields ++ [(key, value)] := by
  induction fields with
  | nil => rfl
  | cons g rest ih =>
    have hg : g.1 < key := h g List.mem_cons_self
    rw [Fields.insert, if_neg (ne_of_gt hg), if_neg (not_lt.mpr hg.le),
      ih fun f hf => h f (List.mem_cons_of_mem _ hf), List.cons_append]

/-- Sorting puts the keys in order. The induction is on the fields that are left, for any fields
that have been sorted before. -/
theorem increasing_foldl (fields : Fields) {acc : Fields} (h : Increasing acc) :
    Increasing (fields.foldl (fun sorted f => Fields.insert f.1 f.2 sorted) acc) := by
  induction fields generalizing acc with
  | nil => exact h
  | cons f rest ih => exact ih (h.insert f.1 f.2)

/-- The fields are in key order, with each key once. -/
theorem increasing_sorted (fields : Fields) : Increasing (Fields.sorted fields) :=
  increasing_foldl fields List.Pairwise.nil

theorem mem_foldl {fields acc : Fields} {f : String × Json}
    (h : f ∈ fields.foldl (fun sorted f => Fields.insert f.1 f.2 sorted) acc) :
    f ∈ acc ∨ f ∈ fields := by
  induction fields generalizing acc with
  | nil => exact Or.inl h
  | cons g rest ih =>
    rcases ih h with hacc | hmem
    · exact (mem_insert hacc).elim (fun heq => Or.inr (heq ▸ List.mem_cons_self)) Or.inl
    · exact Or.inr (List.mem_cons_of_mem _ hmem)

/-- Sorting adds no fields. -/
theorem mem_of_mem_sorted {fields : Fields} {f : String × Json} (h : f ∈ Fields.sorted fields) :
    f ∈ fields := (mem_foldl h).resolve_left (by simp)

/-- Fields that are in key order are put one behind the other. -/
theorem foldl_of_increasing {fields acc : Fields} (h : Increasing (acc ++ fields)) :
    fields.foldl (fun sorted f => Fields.insert f.1 f.2 sorted) acc = acc ++ fields := by
  induction fields generalizing acc with
  | nil => simp
  | cons f rest ih =>
    have hgreater : ∀ g ∈ acc, g.1 < f.1 := fun g hg =>
      (List.pairwise_append.mp h).2.2 g hg f List.mem_cons_self
    rw [List.foldl_cons, insert_of_greater f.2 hgreater, ih (by simpa using h),
      List.append_assoc, List.singleton_append]

/-- Fields that are in order stay as they are. -/
theorem Increasing.sorted_eq {fields : Fields} (h : Increasing fields) :
    Fields.sorted fields = fields := foldl_of_increasing h

end Fields

/-! ## Ordered values -/

/-- The keys of every object in the value increase. -/
inductive Ordered : Json → Prop where
  | null : Ordered .null
  | bool (b : Bool) : Ordered (.bool b)
  | number (n : Number) : Ordered (.number n)
  | string (s : String) : Ordered (.string s)
  | array {items : List Json} (h : ∀ item ∈ items, Ordered item) : Ordered (.array items)
  | object {fields : Fields} (hkeys : fields.Increasing) (h : ∀ f ∈ fields, Ordered f.2) :
      Ordered (.object fields)

theorem canonicalItems_eq (items : List Json) : canonicalItems items = items.map canonical := by
  induction items with
  | nil => rfl
  | cons item rest ih => rw [canonicalItems, ih, List.map_cons]

theorem canonicalFields_eq (fields : Fields) :
    canonicalFields fields = fields.map fun f => (f.1, canonical f.2) := by
  induction fields with
  | nil => rfl
  | cons f rest ih => rw [canonicalFields, ih, List.map_cons]

/-- An ordered value is in canonical form. -/
theorem Ordered.canonical_eq {value : Json} (h : Ordered value) : value.canonical = value := by
  induction h with
  | null => rfl
  | bool b => rfl
  | number n => rfl
  | string s => rfl
  | array h ih =>
    rw [canonical, canonicalItems_eq, List.map_congr_left ih, List.map_id']
  | @object fields hkeys h ih =>
    have hfields : canonicalFields fields = fields := by
      rw [canonicalFields_eq, List.map_congr_left fun f hf => by rw [ih f hf], List.map_id']
    rw [canonical, hfields, hkeys.sorted_eq]

mutual

/-- The canonical form of a value is ordered. -/
theorem ordered_canonical : (value : Json) → Ordered value.canonical
  | .null => .null
  | .bool b => .bool b
  | .number n => .number n
  | .string s => .string s
  | .array items => .array (ordered_canonicalItems items)
  | .object fields =>
    .object (Fields.increasing_sorted _) fun f hf =>
      ordered_canonicalFields fields f (Fields.mem_of_mem_sorted hf)

theorem ordered_canonicalItems : (items : List Json) → ∀ item ∈ canonicalItems items, Ordered item
  | [] => by simp [canonicalItems]
  | item :: rest => by
    rw [canonicalItems, List.forall_mem_cons]
    exact ⟨ordered_canonical item, ordered_canonicalItems rest⟩

theorem ordered_canonicalFields : (fields : Fields) → ∀ f ∈ canonicalFields fields, Ordered f.2
  | [] => by simp [canonicalFields]
  | (key, value) :: rest => by
    rw [canonicalFields, List.forall_mem_cons]
    exact ⟨ordered_canonical value, ordered_canonicalFields rest⟩

end

end CertRenewal.Json
