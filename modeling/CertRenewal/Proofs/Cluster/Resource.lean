import CertRenewal.Cluster.Resource
import CertRenewal.Proofs.Json.Patch

/-!
# Reading an object of which one field was changed

The reader of objects takes the metadata and the names of the type for itself and keeps all other
fields. A change of one of the others therefore shows in the body of the object, and nowhere else
(`ofJson?_modify?`). The same goes for the document as which an object is written
(`replaceAt_toJson`).
-/

namespace CertRenewal.Cluster

open CertRenewal.Json (Fields Ordered)

variable {key : String} {change : Json → Option Json} {fields fields' : Fields}

/-! ## Taking the names of the type -/

namespace TypeNames

def IsKey (key : String) : Prop := key = "apiVersion" ∨ key = "kind"

theorem take_cons (apiVersion kind : Option String) (key : String) (value : Json) (rest : Fields) :
    take apiVersion kind ((key, value) :: rest) =
      if key = "apiVersion" then
        match value, apiVersion with
        | .string s, none => take (some s) kind rest
        | _, _ => (none, rest)
      else if key = "kind" then
        match value, kind with
        | .string s, none => take apiVersion (some s) rest
        | _, _ => (none, rest)
      else ((take apiVersion kind rest).1, (key, value) :: (take apiVersion kind rest).2) := rfl

/-- A field of another key is left, and does not matter for the names. -/
theorem take_cons_of_not_isKey (hkey : ¬ IsKey key) (apiVersion kind : Option String) (value : Json)
    (rest : Fields) :
    take apiVersion kind ((key, value) :: rest) =
      ((take apiVersion kind rest).1, (key, value) :: (take apiVersion kind rest).2) := by
  rw [take_cons, if_neg fun h => hkey (Or.inl h), if_neg fun h => hkey (Or.inr h)]

/-- A field of a name is gone, and it is the value that says whether the taking goes on. -/
theorem take_cons_of_isKey (hkey : IsKey key) (apiVersion kind : Option String) (value : Json) :
    (∃ apiVersion' kind', ∀ rest,
      take apiVersion kind ((key, value) :: rest) = take apiVersion' kind' rest) ∨
    ∀ rest, take apiVersion kind ((key, value) :: rest) = (none, rest) := by
  simp only [take_cons]
  split
  · split
    · exact Or.inl ⟨_, _, fun _ => rfl⟩
    · exact Or.inr fun _ => rfl
  · rename_i hversion
    simp only [if_pos (hkey.resolve_left hversion)]
    split
    · exact Or.inl ⟨_, _, fun _ => rfl⟩
    · exact Or.inr fun _ => rfl

theorem take_nil (apiVersion kind : Option String) : (take apiVersion kind []).2 = [] := by
  cases apiVersion <;> cases kind <;> rfl

/-- The fields that are left are among the given ones, in their order. -/
theorem take_sublist (apiVersion kind : Option String) (fields : Fields) :
    (take apiVersion kind fields).2.Sublist fields := by
  induction fields generalizing apiVersion kind with
  | nil => rw [take_nil]
  | cons f rest ih =>
    by_cases hf : IsKey f.1
    · obtain ⟨apiVersion', kind', htake⟩ | htake := take_cons_of_isKey hf apiVersion kind f.2
      · rw [htake]
        exact (ih _ _).cons f
      · rw [htake]
        exact List.sublist_cons_self f rest
    · rw [take_cons_of_not_isKey hf]
      exact (ih _ _).cons_cons f

/-- Fields of other keys are still there. -/
theorem get?_take (hkey : ¬ IsKey key) (apiVersion kind : Option String) (fields : Fields) :
    Fields.get? (take apiVersion kind fields).2 key = Fields.get? fields key := by
  induction fields generalizing apiVersion kind with
  | nil => rw [take_nil]
  | cons f rest ih =>
    by_cases hf : IsKey f.1
    · have hne : key ≠ f.1 := fun h => hkey (h ▸ hf)
      rw [Fields.get?_cons_of_ne hne]
      obtain ⟨apiVersion', kind', htake⟩ | htake := take_cons_of_isKey hf apiVersion kind f.2
      · rw [htake, ih]
      · rw [htake]
    · rw [take_cons_of_not_isKey hf]
      exact Fields.get?_cons_congr f (ih _ _)

/-- A change of another field is a change of the fields that are left. The induction is on the
fields, for any names that have been taken before. -/
theorem take_modify? (hkey : ¬ IsKey key) (apiVersion kind : Option String)
    (h : Fields.modify? key change fields = some fields') :
    (take apiVersion kind fields').1 = (take apiVersion kind fields).1 ∧
      Fields.modify? key change (take apiVersion kind fields).2 =
        some (take apiVersion kind fields').2 := by
  induction fields generalizing apiVersion kind fields' with
  | nil => cases h
  | cons f rest ih =>
    by_cases hk : f.1 = key
    · subst hk
      rw [Fields.modify?, if_pos rfl] at h
      obtain ⟨new, hnew, rfl⟩ := Option.map_eq_some_iff.mp h
      rw [take_cons_of_not_isKey hkey, take_cons_of_not_isKey hkey]
      exact ⟨rfl, by simp [Fields.modify?, hnew]⟩
    · rw [Fields.modify?, if_neg hk] at h
      obtain ⟨rest', hrest, rfl⟩ := Option.map_eq_some_iff.mp h
      by_cases hf : IsKey f.1
      · obtain ⟨apiVersion', kind', htake⟩ | htake := take_cons_of_isKey hf apiVersion kind f.2
        · rw [htake, htake]
          exact ih _ _ hrest
        · rw [htake, htake]
          exact ⟨rfl, hrest⟩
      · rw [take_cons_of_not_isKey hf, take_cons_of_not_isKey hf]
        obtain ⟨hnames, hleft⟩ := ih apiVersion kind hrest
        exact ⟨hnames, by simp [Fields.modify?, hk, hleft]⟩

end TypeNames

/-! ## Reading -/

namespace Resource

/-- A key of a field that the reader of objects does not take for itself. -/
structure Kept (key : String) : Prop where
  not_metadata : key ≠ "metadata"
  not_name : ¬ TypeNames.IsKey key

abbrev withoutMetadata (fields : Fields) : Fields := fields.filter fun (key, _) => key != "metadata"

/-- A change of another field leaves the metadata as they are read. -/
theorem metadataOf_modify? (hkey : key ≠ "metadata")
    (h : Fields.modify? key change fields = some fields') :
    metadataOf fields' = metadataOf fields := by
  obtain ⟨before, value, new, after, rfl, -, -, rfl⟩ := Fields.modify?_eq_some_iff.mp h
  simp [metadataOf, hkey]

theorem withoutMetadata_modify? (hkey : key ≠ "metadata")
    (h : Fields.modify? key change fields = some fields') :
    Fields.modify? key change (withoutMetadata fields) = some (withoutMetadata fields') := by
  obtain ⟨before, value, new, after, rfl, hbefore, hnew, rfl⟩ := Fields.modify?_eq_some_iff.mp h
  refine Fields.modify?_eq_some_iff.mpr
    ⟨withoutMetadata before, value, new, withoutMetadata after, ?_, ?_, hnew, ?_⟩
  · simp [withoutMetadata, hkey]
  · exact fun f hf => hbefore f (List.mem_of_mem_filter hf)
  · simp [withoutMetadata, hkey]

theorem get?_withoutMetadata (hkey : key ≠ "metadata") (fields : Fields) :
    Fields.get? (withoutMetadata fields) key = Fields.get? fields key := by
  induction fields with
  | nil => rfl
  | cons f rest ih =>
    by_cases hf : f.1 = "metadata"
    · rw [withoutMetadata, List.filter_cons_of_neg (by simp [hf]),
        Fields.get?_cons_of_ne (hf ▸ hkey)]
      exact ih
    · rw [withoutMetadata, List.filter_cons_of_pos (by simp [hf])]
      exact Fields.get?_cons_congr f ih

/-- Some of the fields of an ordered object, in their order, are in canonical form. -/
theorem canonical_of_sublist {rest : Fields} (hordered : Ordered (.object fields))
    (h : rest.Sublist fields) : (Json.object rest).canonical.fields = rest := by
  cases hordered with
  | object hkeys hall =>
    have hrest : Ordered (.object rest) :=
      .object (List.Pairwise.sublist h hkeys) fun f hf => hall f (h.subset hf)
    rw [hrest.canonical_eq]
    rfl

/-- Only an object is read. -/
theorem exists_fields_of_ofJson? {value : Json} {r : Resource} (h : ofJson? value = some r) :
    ∃ fields, value = .object fields := by
  cases value with
  | object fields => exact ⟨fields, rfl⟩
  | null => cases h
  | bool b => cases h
  | number n => cases h
  | string s => cases h
  | array items => cases h

/-- What an ordered object is read as: its metadata, the names of its type and the other fields,
just as they are. -/
theorem ofJson?_eq_some_iff (hordered : Ordered (.object fields)) {r : Resource} :
    ofJson? (.object fields) = some r ↔
      metadataOf fields = some r.metadata ∧
        TypeNames.take none none (withoutMetadata fields) = (r.types, r.body) := by
  have hsublist : (TypeNames.take none none (withoutMetadata fields)).2.Sublist fields :=
    (TypeNames.take_sublist _ _ _).trans List.filter_sublist
  have hbody := canonical_of_sublist hordered hsublist
  have hread : ofJson? (.object fields) = (metadataOf fields).map fun metadata =>
      ⟨(TypeNames.take none none (withoutMetadata fields)).1, metadata,
        (TypeNames.take none none (withoutMetadata fields)).2⟩ := by
    rw [← hbody]
    cases h : metadataOf fields <;> simp [ofJson?, h]
  rw [hread, Option.map_eq_some_iff]
  constructor
  · rintro ⟨metadata, hmetadata, rfl⟩
    exact ⟨hmetadata, rfl⟩
  · rintro ⟨hmetadata, htake⟩
    exact ⟨r.metadata, hmetadata, by rw [htake]⟩

/-- A kept field is in the body. -/
theorem get?_body (hkey : Kept key) (hordered : Ordered (.object fields)) {r : Resource}
    (h : ofJson? (.object fields) = some r) :
    Fields.get? r.body key = Fields.get? fields key := by
  obtain ⟨-, htake⟩ := (ofJson?_eq_some_iff hordered).mp h
  rw [← get?_withoutMetadata hkey.not_metadata fields,
    ← TypeNames.get?_take hkey.not_name none none (withoutMetadata fields), htake]

/-- A change of a kept field is a change of the body, and of nothing else. -/
theorem ofJson?_modify? (hkey : Kept key) (hordered : Ordered (.object fields))
    (hordered' : Ordered (.object fields')) {r : Resource} (h : ofJson? (.object fields) = some r)
    (hchange : Fields.modify? key change fields = some fields') :
    ∃ body', ofJson? (.object fields') = some { r with body := body' } ∧
      Fields.modify? key change r.body = some body' := by
  obtain ⟨hmetadata, htake⟩ := (ofJson?_eq_some_iff hordered).mp h
  obtain ⟨hnames, hbody⟩ := TypeNames.take_modify? hkey.not_name none none
    (withoutMetadata_modify? hkey.not_metadata hchange)
  rw [htake] at hnames hbody
  refine ⟨_, (ofJson?_eq_some_iff hordered').mpr ⟨?_, ?_⟩, hbody⟩
  · rw [metadataOf_modify? hkey.not_metadata hchange, hmetadata]
  · exact Prod.ext hnames rfl

/-- What is found behind a kept key is found in the body. -/
theorem getAt?_body (hkey : Kept key) {document : Json} (hordered : Ordered document)
    {r : Resource} (h : ofJson? document = some r) (path : Json.Path) :
    Json.getAt? (key :: path) document = Json.getAt? (key :: path) (.object r.body) := by
  obtain ⟨fields, rfl⟩ := exists_fields_of_ofJson? h
  rw [Json.getAt?, Json.getAt?, get?_body hkey hordered h]

/-- To put a value behind a kept key is to put it into the body. -/
theorem ofJson?_replaceAt {path : Json.Path} {document document' new : Json} (hkey : Kept key)
    (hpath : Json.Path.Named (key :: path)) (hordered : Ordered document) (hnew : Ordered new)
    {r : Resource} (h : ofJson? document = some r)
    (hchange : Json.replaceAt new (key :: path) document = some document') :
    Ordered document' ∧ ∃ body, ofJson? document' = some { r with body := body } ∧
      Fields.modify? key (Json.replaceAt new path) r.body = some body := by
  have hordered' := hordered.replaceAt hpath hnew hchange
  obtain ⟨fields, fields', rfl, rfl, hfields⟩ := hpath.replaceAt_cons hchange
  exact ⟨hordered', ofJson?_modify? hkey hordered hordered' h hfields⟩

/-! ## Writing -/

def front (r : Resource) : Fields :=
  TypeNames.toFields r.types ++ [("metadata", r.metadata.toJson)]

/-- An object is written with its body behind the fields that the reader takes for itself. -/
theorem toJson_eq (r : Resource) : r.toJson = .object (r.front ++ r.body) := by
  rw [toJson, front, List.append_assoc, List.singleton_append]

theorem Kept.not_mem_front (hkey : Kept key) (r : Resource) : ∀ f ∈ r.front, f.1 ≠ key := by
  obtain ⟨hmetadata, hname⟩ := hkey
  obtain ⟨hversion, hkind⟩ := not_or.mp hname
  intro f hf
  obtain ⟨types, metadata, body⟩ := r
  cases types with
  | none =>
    obtain rfl : f = ("metadata", metadata.toJson) := by simpa [front, TypeNames.toFields] using hf
    exact Ne.symm hmetadata
  | some names =>
    simp only [front, TypeNames.toFields, List.cons_append, List.nil_append, List.mem_cons,
      List.not_mem_nil, or_false] at hf
    obtain rfl | rfl | rfl := hf
    · exact Ne.symm hversion
    · exact Ne.symm hkind
    · exact Ne.symm hmetadata

/-- What is found behind a kept key in a written object is found in its body. -/
theorem getAt?_toJson (hkey : Kept key) (path : Json.Path) (r : Resource) :
    Json.getAt? (key :: path) r.toJson = Json.getAt? (key :: path) (.object r.body) := by
  rw [toJson_eq, Json.getAt?, Json.getAt?, Fields.get?_append_of_absent (hkey.not_mem_front r)]

/-- To put a value behind a kept key of a written object is to put it into the body. -/
theorem replaceAt_toJson (hkey : Kept key) (new : Json) (path : Json.Path) (r : Resource) :
    Json.replaceAt new (key :: path) r.toJson =
      (Fields.modify? key (Json.replaceAt new path) r.body).map fun body =>
        ({ r with body := body } : Resource).toJson := by
  rw [toJson_eq, Json.replaceAt, Fields.modify?_append_of_absent (hkey.not_mem_front r),
    Option.map_map]
  refine Option.map_congr fun body _ => ?_
  rw [toJson_eq]
  rfl

end Resource

end CertRenewal.Cluster
