import CertRenewal.Json.Patch
import CertRenewal.Proofs.Json.Canonical

/-!
# What putting a value at a path changes

`replaceAt` succeeds exactly where there is a value (`exists_replaceAt_iff`). The new value is then
found at the path, and what was put there before no longer matters. A path of names leads through
objects only; then nothing is changed at paths that lead elsewhere
(`getAt?_replaceAt_of_diverging`), and the order of keys is kept (`Ordered.replaceAt`).

`Patch.edit` is a patch that is applied in place. It comes to the same as `Patch.applied?` when the
patch can be applied (`Patch.edit_of_applied?`), and stops at the first operation that cannot.
-/

namespace CertRenewal.Json

namespace Fields

/-! ## The field of a key -/

/-- The field that is found is the first one of its key. -/
theorem get?_eq_some_iff {fields : Fields} {key : String} {value : Json} :
    Fields.get? fields key = some value ↔
      ∃ before after, fields = before ++ (key, value) :: after ∧ ∀ f ∈ before, f.1 ≠ key := by
  rw [Fields.get?, List.lookup_eq_some_iff]
  simp only [bne_iff_ne, ne_comm]

theorem get?_cons_of_ne {key : String} {f : String × Json} (h : key ≠ f.1) (rest : Fields) :
    Fields.get? (f :: rest) key = Fields.get? rest key := by
  obtain ⟨k, v⟩ := f
  simp only [Fields.get?, List.lookup_cons, beq_false_of_ne h]

theorem get?_cons_congr {key : String} (f : String × Json) {rest rest' : Fields}
    (h : Fields.get? rest key = Fields.get? rest' key) :
    Fields.get? (f :: rest) key = Fields.get? (f :: rest') key := by
  obtain ⟨k, v⟩ := f
  simp only [Fields.get?, List.lookup_cons] at h ⊢
  rw [h]

/-- The first field of a key is behind fields of other keys. -/
theorem get?_append_of_ne {before : Fields} {key : String} (h : ∀ f ∈ before, f.1 ≠ key)
    (value : Json) (after : Fields) :
    Fields.get? (before ++ (key, value) :: after) key = some value :=
  get?_eq_some_iff.mpr ⟨before, after, rfl, h⟩

/-- Fields of other keys do not hide one that stands behind them. -/
theorem get?_append_of_absent {front : Fields} {key : String} (h : ∀ f ∈ front, f.1 ≠ key)
    (fields : Fields) : Fields.get? (front ++ fields) key = Fields.get? fields key := by
  induction front with
  | nil => rfl
  | cons f front ih =>
    obtain ⟨hf, hfront⟩ := List.forall_mem_cons.mp h
    rw [List.cons_append, get?_cons_of_ne (Ne.symm hf), ih hfront]

/-- Fields of other keys stay as they are when one behind them is changed. -/
theorem modify?_append_of_absent {front : Fields} {key : String} (h : ∀ f ∈ front, f.1 ≠ key)
    (change : Json → Option Json) (fields : Fields) :
    Fields.modify? key change (front ++ fields) =
      (Fields.modify? key change fields).map (front ++ ·) := by
  induction front with
  | nil => simp
  | cons f front ih =>
    obtain ⟨hf, hfront⟩ := List.forall_mem_cons.mp h
    rw [List.cons_append, Fields.modify?, if_neg hf, ih hfront, Option.map_map]
    rfl

/-- Changing a field leaves those before and after it. -/
theorem modify?_eq_some_iff {key : String} {change : Json → Option Json} {fields fields' : Fields} :
    Fields.modify? key change fields = some fields' ↔
      ∃ before value new after, fields = before ++ (key, value) :: after ∧
        (∀ f ∈ before, f.1 ≠ key) ∧ change value = some new ∧
        fields' = before ++ (key, new) :: after := by
  induction fields generalizing fields' with
  | nil => simp [Fields.modify?]
  | cons f rest ih =>
    obtain ⟨k, v⟩ := f
    rw [Fields.modify?]
    split
    · rename_i heq
      subst heq
      rw [Option.map_eq_some_iff]
      constructor
      · rintro ⟨new, hnew, rfl⟩
        exact ⟨[], v, new, rest, rfl, by simp, hnew, rfl⟩
      · rintro ⟨before, value, new, after, hsplit, hbefore, hnew, rfl⟩
        cases before with
        | nil =>
          cases hsplit
          exact ⟨new, hnew, rfl⟩
        | cons g more =>
          cases hsplit
          exact absurd rfl (hbefore _ List.mem_cons_self)
    · rename_i hne
      rw [Option.map_eq_some_iff]
      constructor
      · rintro ⟨rest', hrest, rfl⟩
        obtain ⟨before, value, new, after, rfl, hbefore, hnew, rfl⟩ := ih.mp hrest
        exact ⟨(k, v) :: before, value, new, after, rfl,
          List.forall_mem_cons.mpr ⟨hne, hbefore⟩, hnew, rfl⟩
      · rintro ⟨before, value, new, after, hsplit, hbefore, hnew, rfl⟩
        cases before with
        | nil =>
          cases hsplit
          exact absurd rfl hne
        | cons g more =>
          cases hsplit
          exact ⟨_, ih.mpr ⟨more, value, new, after, rfl,
            fun f hf => hbefore f (List.mem_cons_of_mem _ hf), hnew, rfl⟩, rfl⟩

variable {key : String} {change : Json → Option Json} {fields fields' : Fields}

/-- A field can be changed when it is there and its value can. -/
theorem exists_modify?_iff :
    (∃ fields', Fields.modify? key change fields = some fields') ↔
      ∃ value new, Fields.get? fields key = some value ∧ change value = some new := by
  constructor
  · rintro ⟨fields', h⟩
    obtain ⟨before, value, new, after, rfl, hbefore, hnew, -⟩ := modify?_eq_some_iff.mp h
    exact ⟨value, new, get?_append_of_ne hbefore value after, hnew⟩
  · rintro ⟨value, new, hvalue, hnew⟩
    obtain ⟨before, after, rfl, hbefore⟩ := get?_eq_some_iff.mp hvalue
    exact ⟨_, modify?_eq_some_iff.mpr ⟨before, value, new, after, rfl, hbefore, hnew, rfl⟩⟩

/-- The changed field has the changed value. -/
theorem get?_modify? (h : Fields.modify? key change fields = some fields') :
    ∃ value new, Fields.get? fields key = some value ∧ change value = some new ∧
      Fields.get? fields' key = some new := by
  obtain ⟨before, value, new, after, rfl, hbefore, hnew, rfl⟩ := modify?_eq_some_iff.mp h
  exact ⟨value, new, get?_append_of_ne hbefore value after, hnew,
    get?_append_of_ne hbefore new after⟩

/-- The other fields are as they were. -/
theorem get?_modify?_of_ne {other : String} (hne : other ≠ key)
    (h : Fields.modify? key change fields = some fields') :
    Fields.get? fields' other = Fields.get? fields other := by
  obtain ⟨before, value, new, after, rfl, -, -, rfl⟩ := modify?_eq_some_iff.mp h
  simp [Fields.get?, List.lookup_append, List.lookup_cons, beq_false_of_ne hne]

/-- Of two changes of one field, the second alone counts when it does not depend on the first. -/
theorem modify?_modify? {change' : Json → Option Json}
    (hchange : ∀ value new, change value = some new → change' new = change' value)
    (h : Fields.modify? key change fields = some fields') :
    Fields.modify? key change' fields' = Fields.modify? key change' fields := by
  obtain ⟨before, value, new, after, rfl, hbefore, hnew, rfl⟩ := modify?_eq_some_iff.mp h
  have hrest := hchange value new hnew
  clear h
  induction before with
  | nil => simp [Fields.modify?, hrest]
  | cons g more ih =>
    have hg : g.1 ≠ key := hbefore g List.mem_cons_self
    simp only [List.cons_append, Fields.modify?, if_neg hg]
    rw [ih fun f hf => hbefore f (List.mem_cons_of_mem _ hf)]

theorem Increasing.modify? (hkeys : fields.Increasing)
    (h : Fields.modify? key change fields = some fields') : fields'.Increasing := by
  obtain ⟨before, value, new, after, rfl, -, -, rfl⟩ := modify?_eq_some_iff.mp h
  have hsame : (before ++ (key, new) :: after).map Prod.fst =
      (before ++ (key, value) :: after).map Prod.fst := by simp
  rw [Increasing, ← List.pairwise_map (f := Prod.fst)] at hkeys ⊢
  rw [hsame]
  exact hkeys

end Fields

/-! ## The item at a position -/

/-- A change at a position leaves the items before and behind it. -/
theorem modifyItem?_eq_some_iff {change : Json → Option Json} {n : Nat} {items items' : List Json} :
    modifyItem? change n items = some items' ↔
      ∃ item new, items[n]? = some item ∧ change item = some new ∧ items' = items.set n new := by
  induction items generalizing n items' with
  | nil => simp [modifyItem?]
  | cons item rest ih =>
    cases n with
    | zero =>
      rw [modifyItem?, Option.map_eq_some_iff]
      constructor
      · rintro ⟨new, hnew, rfl⟩
        exact ⟨item, new, rfl, hnew, rfl⟩
      · rintro ⟨old, new, hold, hnew, rfl⟩
        cases hold
        exact ⟨new, hnew, rfl⟩
    | succ n =>
      rw [modifyItem?, Option.map_eq_some_iff]
      constructor
      · rintro ⟨rest', hrest, rfl⟩
        obtain ⟨old, new, hold, hnew, rfl⟩ := ih.mp hrest
        exact ⟨old, new, hold, hnew, rfl⟩
      · rintro ⟨old, new, hold, hnew, rfl⟩
        exact ⟨_, ih.mpr ⟨old, new, hold, hnew, rfl⟩, rfl⟩

/-! ## The value at a path -/

variable {value value' new : Json} {path : Path}

/-- In an object the first key of the path names a field that is there. -/
theorem replaceAt_cons_object {key : String} {fields : Fields} :
    replaceAt new (key :: path) (.object fields) = some value' ↔
      ∃ fields', Fields.modify? key (replaceAt new path) fields = some fields' ∧
        .object fields' = value' := by
  rw [replaceAt, Option.map_eq_some_iff]

/-- In an array it is a position that is there. -/
theorem replaceAt_cons_array {key : String} {items : List Json} :
    replaceAt new (key :: path) (.array items) = some value' ↔
      ∃ n items', position? key = some n ∧
        modifyItem? (replaceAt new path) n items = some items' ∧ .array items' = value' := by
  simp [replaceAt, Option.bind_eq_some_iff]

/-- A value can be put exactly where there is one. -/
theorem exists_replaceAt_iff :
    (∃ value', replaceAt new path value = some value') ↔ ∃ old, getAt? path value = some old := by
  induction path generalizing value with
  | nil => simp [replaceAt, getAt?]
  | cons key path ih =>
    cases value with
    | object fields =>
      simp only [replaceAt_cons_object, getAt?, Option.bind_eq_some_iff]
      constructor
      · rintro ⟨_, fields', hfields, -⟩
        obtain ⟨child, _, hchild, hnew⟩ := Fields.exists_modify?_iff.mp ⟨fields', hfields⟩
        obtain ⟨old, hold⟩ := ih.mp ⟨_, hnew⟩
        exact ⟨old, child, hchild, hold⟩
      · rintro ⟨old, child, hchild, hold⟩
        obtain ⟨child', hchild'⟩ := ih.mpr ⟨old, hold⟩
        obtain ⟨fields', hfields⟩ := Fields.exists_modify?_iff.mpr ⟨child, child', hchild, hchild'⟩
        exact ⟨_, fields', hfields, rfl⟩
    | array items =>
      simp only [replaceAt_cons_array, modifyItem?_eq_some_iff]
      constructor
      · rintro ⟨_, n, _, hn, ⟨item, item', hitem, hnew, -⟩, -⟩
        obtain ⟨old, hold⟩ := ih.mp ⟨_, hnew⟩
        exact ⟨old, by simp [getAt?, hn, hitem, hold]⟩
      · rintro ⟨old, hold⟩
        simp only [getAt?, Option.bind_eq_bind, Option.bind_eq_some_iff] at hold
        obtain ⟨n, hn, item, hitem, hold⟩ := hold
        obtain ⟨item', hitem'⟩ := ih.mpr ⟨old, hold⟩
        exact ⟨_, n, _, hn, ⟨item, item', hitem, hitem', rfl⟩, rfl⟩
    | null => simp [replaceAt, getAt?]
    | bool b => simp [replaceAt, getAt?]
    | number n => simp [replaceAt, getAt?]
    | string s => simp [replaceAt, getAt?]

/-- What putting a value behind a first key can do: it changes the field of an object, or the item
of an array if the key is a position. -/
theorem replaceAt_cons {key : String} (h : replaceAt new (key :: path) value = some value') :
    (∃ fields fields', value = .object fields ∧ value' = .object fields' ∧
      Fields.modify? key (replaceAt new path) fields = some fields') ∨
    ∃ items n item item', value = .array items ∧ position? key = some n ∧ items[n]? = some item ∧
      replaceAt new path item = some item' ∧ value' = .array (items.set n item') := by
  cases value with
  | object fields =>
    obtain ⟨fields', hfields, rfl⟩ := replaceAt_cons_object.mp h
    exact Or.inl ⟨fields, fields', rfl, rfl, hfields⟩
  | array items =>
    obtain ⟨n, items', hn, hitems, rfl⟩ := replaceAt_cons_array.mp h
    obtain ⟨item, item', hitem, hnew, rfl⟩ := modifyItem?_eq_some_iff.mp hitems
    exact Or.inr ⟨items, n, item, item', rfl, hn, hitem, hnew, rfl⟩
  | null => cases h
  | bool b => cases h
  | number n => cases h
  | string s => cases h

/-- A value cannot be put where there is none. -/
theorem replaceAt_eq_none_iff : replaceAt new path value = none ↔ getAt? path value = none := by
  rw [← not_iff_not, ← ne_eq, ← ne_eq, Option.ne_none_iff_exists', Option.ne_none_iff_exists',
    exists_replaceAt_iff]

/-- What is at a path that goes on is found from where the first part of it leads to. -/
theorem getAt?_append (path more : Path) (value : Json) :
    getAt? (path ++ more) value = (getAt? path value).bind (getAt? more) := by
  induction path generalizing value with
  | nil => rfl
  | cons key path ih =>
    rw [List.cons_append]
    cases value with
    | object fields =>
      rw [getAt?, getAt?, Option.bind_assoc]
      exact Option.bind_congr fun child _ => ih child
    | array items => simp [getAt?, Option.bind_assoc, funext ih]
    | null => rfl
    | bool b => rfl
    | number n => rfl
    | string s => rfl

/-- The value that was put at a path is found there. -/
theorem getAt?_replaceAt (h : replaceAt new path value = some value') :
    getAt? path value' = some new := by
  induction path generalizing value value' with
  | nil => exact h.symm
  | cons key path ih =>
    obtain ⟨fields, fields', rfl, rfl, hfields⟩ |
      ⟨items, n, item, item', rfl, hn, hitem, hnew, rfl⟩ := replaceAt_cons h
    · obtain ⟨child, child', -, hchild, hget⟩ := Fields.get?_modify? hfields
      rw [getAt?, hget]
      exact ih hchild
    · have hlt : n < items.length := (List.getElem?_eq_some_iff.mp hitem).1
      simp [getAt?, hn, List.getElem?_set_self hlt, ih hnew]

/-- Of two values that are put at one path, the second one stays. -/
theorem replaceAt_replaceAt (second : Json) (h : replaceAt new path value = some value') :
    replaceAt second path value' = replaceAt second path value := by
  induction path generalizing value value' with
  | nil => rfl
  | cons key path ih =>
    obtain ⟨fields, fields', rfl, rfl, hfields⟩ |
      ⟨items, n, item, item', rfl, hn, hitem, hnew, rfl⟩ := replaceAt_cons h
    · rw [replaceAt, replaceAt, Fields.modify?_modify? (fun _ _ hchild => ih hchild) hfields]
    · refine Option.ext fun result => ?_
      have hlt : n < items.length := (List.getElem?_eq_some_iff.mp hitem).1
      simp [replaceAt_cons_array, hn, modifyItem?_eq_some_iff, List.getElem?_set_self hlt, hitem,
        ih hnew, List.set_set]

/-! ## Paths of names -/

/-- No part of the path is a position, so that it leads through objects only. -/
def Path.Named (path : Path) : Prop := ∀ key ∈ path, position? key = none

/-- What is changed by putting a value at a path of names is the first field of its first name. -/
theorem Path.Named.replaceAt_cons {key : String} (hpath : Path.Named (key :: path))
    (h : replaceAt new (key :: path) value = some value') :
    ∃ fields fields', value = .object fields ∧ value' = .object fields' ∧
      Fields.modify? key (replaceAt new path) fields = some fields' := by
  obtain hobject | ⟨items, n, item, item', -, hn, -⟩ := Json.replaceAt_cons h
  · exact hobject
  · rw [hpath key List.mem_cons_self] at hn
    cases hn

theorem Path.Named.tail {key : String} (hpath : Path.Named (key :: path)) : Path.Named path :=
  fun k hk => hpath k (List.mem_cons_of_mem _ hk)

/-- Paths neither of which begins with the other lead to different parts: what is found at one does
not depend on what is put at the other. -/
theorem getAt?_replaceAt_of_diverging {other : Path} (hpath : path.Named)
    (h : replaceAt new path value = some value') (hother : ¬ other <+: path)
    (hbeyond : ¬ path <+: other) : getAt? other value' = getAt? other value := by
  induction path generalizing value value' other with
  | nil => exact absurd List.nil_prefix hbeyond
  | cons key path ih =>
    obtain ⟨fields, fields', rfl, rfl, hfields⟩ := hpath.replaceAt_cons h
    cases other with
    | nil => exact absurd List.nil_prefix hother
    | cons k rest =>
      rw [getAt?, getAt?]
      by_cases hk : k = key
      · subst hk
        obtain ⟨child, child', hchild, hnew, hchild'⟩ := Fields.get?_modify? hfields
        rw [hchild, hchild']
        refine ih hpath.tail hnew ?_ ?_
        · exact fun hprefix => hother (List.cons_prefix_cons.mpr ⟨rfl, hprefix⟩)
        · exact fun hprefix => hbeyond (List.cons_prefix_cons.mpr ⟨rfl, hprefix⟩)
      · rw [Fields.get?_modify?_of_ne hk hfields]

/-- A text that is put in the place of a text is all that changes: the path and those that lead to
it are the only ones at which something else is found afterwards. -/
theorem getAt?_replaceAt_of_string {old text : String} {other : Path} (hpath : path.Named)
    (hold : getAt? path value = some (.string old))
    (h : replaceAt (.string text) path value = some value') (hother : ¬ other <+: path) :
    getAt? other value' = getAt? other value := by
  by_cases hbeyond : path <+: other
  · obtain ⟨more, rfl⟩ := hbeyond
    rw [getAt?_append, getAt?_append, hold, getAt?_replaceAt h]
    cases more with
    | nil => exact absurd (by simp) hother
    | cons key more => rfl
  · exact getAt?_replaceAt_of_diverging hpath h hother hbeyond

/-- Putting an ordered value into another keeps the order of keys. -/
theorem Ordered.replaceAt (hvalue : Ordered value) (hpath : path.Named) (hnew : Ordered new)
    (h : Json.replaceAt new path value = some value') : Ordered value' := by
  induction path generalizing value value' with
  | nil =>
    cases h
    exact hnew
  | cons key path ih =>
    obtain ⟨fields, fields', rfl, rfl, hfields⟩ := hpath.replaceAt_cons h
    cases hvalue with
    | object hkeys hall =>
      refine .object (hkeys.modify? hfields) ?_
      obtain ⟨before, child, child', after, rfl, -, hchild, rfl⟩ :=
        Fields.modify?_eq_some_iff.mp hfields
      have hchild' := ih (hall (key, child) (by simp)) hpath.tail hchild
      simp only [List.forall_mem_append, List.forall_mem_cons] at hall ⊢
      exact ⟨hall.1, hchild', hall.2.2⟩

/-! ## Patching in place -/

/-- Applies operations to a document one after the other, up to the first that fails. Says whether
all of them could be applied, and how the document is left. -/
def Patch.edit : Patch → Json → Bool × Json
  | [], document => (true, document)
  | operation :: more, document =>
    match operation.applied? document with
    | some changed => Patch.edit more changed
    | none => (false, document)

theorem Patch.applied?_cons (operation : Operation) (more : Patch) (document : Json) :
    Patch.applied? (operation :: more) document =
      (operation.applied? document).bind (Patch.applied? more) :=
  List.foldlM_cons

/-- A patch that can be applied leaves the changed document. -/
theorem Patch.edit_of_applied? {patch : Patch} {document changed : Json}
    (h : patch.applied? document = some changed) : patch.edit document = (true, changed) := by
  induction patch generalizing document with
  | nil =>
    cases h
    rfl
  | cons operation more ih =>
    rw [applied?_cons] at h
    obtain ⟨next, hnext, hmore⟩ := Option.bind_eq_some_iff.mp h
    rw [edit, hnext]
    exact ih hmore

/-- An operation that fails leaves the document as it is. -/
theorem Patch.edit_of_fails {operation : Operation} {document : Json}
    (h : operation.applied? document = none) (more : Patch) :
    Patch.edit (operation :: more) document = (false, document) := by
  rw [edit, h]

end CertRenewal.Json
