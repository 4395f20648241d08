import CertRenewal.Machines.Reference
import CertRenewal.Proofs.Faults
import CertRenewal.Proofs.Json.Patch

/-!
# Valid references

`Refers` says of a value that it is a reference to a template, in one of the two forms that a
reference can have, and of which fields. `ofJson_eq_ok_iff` is the equation with the reader, and
`ofJson_toJson` reads a reference back from the object as which it is written.
-/

namespace CertRenewal.Machines.TemplateReference

open CertRenewal.Json (Fields)

def renamed (r : TemplateReference) (name : String) : TemplateReference := { r with name := name }

/-- A text that need not be given: there is no value for it, or the value is null or a string. -/
inductive Gives : Option Json → Option String → Prop where
  | absent : Gives none none
  | null : Gives (some .null) none
  | string (s : String) : Gives (some (.string s)) (some s)

/-- A value is a reference. -/
inductive Refers : Json → TemplateReference → Prop where
  /-- An object. Its other fields do not matter. -/
  | object {fields : Fields} {r : TemplateReference}
      (apiVersion : Gives (Fields.get? fields "apiVersion") r.apiVersion)
      (kind : Fields.get? fields "kind" = some (.string r.kind))
      (name : Fields.get? fields "name" = some (.string r.name))
      (namespace_ : Gives (Fields.get? fields "namespace") r.namespace_) :
      Refers (.object fields) r
  /-- An array of three or four items, the last of which is the namespace. -/
  | array {first : Json} {last : Option Json} {r : TemplateReference}
      (apiVersion : Gives (some first) r.apiVersion) (namespace_ : Gives last r.namespace_) :
      Refers (.array (first :: .string r.kind :: .string r.name :: last.toList)) r

/-! ## Texts -/

theorem text_eq_ok_iff {value : Json} {s : String} : text value = .ok s ↔ value = .string s := by
  cases value <;> simp [text]

theorem optionalText_eq_ok_iff {value : Json} {x : Option String} :
    optionalText value = .ok x ↔ Gives (some value) x := by
  constructor
  · intro h
    cases value with
    | null =>
      cases h
      exact .null
    | string s =>
      cases h
      exact .string s
    | bool b => cases h
    | number n => cases h
    | array items => cases h
    | object fields => cases h
  · rintro (_ | _)
    · rfl
    · rfl

/-- A field that is read as a text is a string. -/
theorem fieldWith_text_iff {fields : Fields} {key s : String} :
    fieldWith text fields key = .ok (some s) ↔ Fields.get? fields key = some (.string s) := by
  rw [fieldWith]
  cases Fields.get? fields key with
  | none => simp
  | some value => cases value <;> simp [text, Except.map]

/-- A field that need not be given is read as what it gives. -/
theorem fieldWith_optionalText_iff {fields : Fields} {key : String} {x : Option String} :
    (∃ given, fieldWith optionalText fields key = .ok given ∧ x = given.join) ↔
      Gives (Fields.get? fields key) x := by
  rw [fieldWith]
  cases Fields.get? fields key with
  | none =>
    constructor
    · rintro ⟨_, ⟨⟩, rfl⟩
      exact .absent
    · rintro ⟨⟩
      exact ⟨none, rfl, rfl⟩
  | some value =>
    rw [← optionalText_eq_ok_iff]
    show (∃ given, (optionalText value).map some = .ok given ∧ x = given.join) ↔ _
    cases optionalText value with
    | error e => simp [Except.map]
    | ok y => simp [Except.map, eq_comm]

/-! ## Objects -/

/-- What an object is read as: its kind and name are strings, and the other texts are those that it
gives. -/
theorem ofFields_eq_ok_iff {fields : Fields} {r : TemplateReference} :
    ofFields fields = .ok r ↔
      Gives (Fields.get? fields "apiVersion") r.apiVersion ∧
      Fields.get? fields "kind" = some (.string r.kind) ∧
      Fields.get? fields "name" = some (.string r.name) ∧
      Gives (Fields.get? fields "namespace") r.namespace_ := by
  rw [← fieldWith_text_iff, ← fieldWith_text_iff, ← fieldWith_optionalText_iff,
    ← fieldWith_optionalText_iff]
  simp only [ofFields]
  cases fieldWith optionalText fields "apiVersion" with
  | error e => simp [bind, Except.bind]
  | ok apiVersion =>
    cases fieldWith text fields "kind" with
    | error e => simp [bind, Except.bind]
    | ok kind =>
      cases fieldWith text fields "name" with
      | error e => simp [bind, Except.bind]
      | ok name =>
        cases fieldWith optionalText fields "namespace" with
        | error e => simp [bind, Except.bind]
        | ok namespace_ =>
          cases kind <;> cases name <;> cases r <;>
            simp [bind, Except.bind, pure, Except.pure, throw, throwThe, MonadExceptOf.throw,
              eq_comm]

/-- Another name in an object gives the reference of that name. -/
theorem ofFields_renamed {fields fields' : Fields} {r : TemplateReference} {name : String}
    (h : ofFields fields = .ok r)
    (hchange : Fields.modify? "name" (fun _ => some (.string name)) fields = some fields') :
    ofFields fields' = .ok (r.renamed name) := by
  have hother : ∀ key, key ≠ "name" → Fields.get? fields' key = Fields.get? fields key :=
    fun key hkey => Fields.get?_modify?_of_ne hkey hchange
  obtain ⟨-, new, -, hnew, hname⟩ := Fields.get?_modify? hchange
  cases hnew
  rw [ofFields_eq_ok_iff] at h ⊢
  rw [hother "apiVersion" (by decide), hother "namespace" (by decide), hother "kind" (by decide)]
  exact ⟨h.1, h.2.1, hname, h.2.2.2⟩

/-! ## Arrays -/

/-- What an array is read as. -/
theorem ofItems_eq_ok_iff {items : List Json} {r : TemplateReference} :
    ofItems items = .ok r ↔
      ∃ first last, items = first :: .string r.kind :: .string r.name :: last.toList ∧
        Gives (some first) r.apiVersion ∧ Gives last r.namespace_ := by
  constructor
  · intro h
    match items, h with
    | [], h => cases h
    | [apiVersion], h =>
      obtain ⟨_, -, h⟩ := exists_of_bind_ok h
      cases h
    | [apiVersion, kind], h =>
      obtain ⟨_, -, h⟩ := exists_of_bind_ok h
      obtain ⟨_, -, h⟩ := exists_of_bind_ok h
      cases h
    | [apiVersion, kind, name], h =>
      obtain ⟨_, hversion, h⟩ := exists_of_bind_ok h
      obtain ⟨_, hkind, h⟩ := exists_of_bind_ok h
      obtain ⟨_, hname, h⟩ := exists_of_bind_ok h
      cases h
      rw [text_eq_ok_iff.mp hkind, text_eq_ok_iff.mp hname]
      exact ⟨apiVersion, none, rfl, optionalText_eq_ok_iff.mp hversion, .absent⟩
    | apiVersion :: kind :: name :: namespace_ :: more, h =>
      obtain ⟨_, hversion, h⟩ := exists_of_bind_ok h
      obtain ⟨_, hkind, h⟩ := exists_of_bind_ok h
      obtain ⟨_, hname, h⟩ := exists_of_bind_ok h
      obtain ⟨_, hnamespace, h⟩ := exists_of_bind_ok h
      cases more with
      | cons item more => cases h
      | nil =>
        cases h
        rw [text_eq_ok_iff.mp hkind, text_eq_ok_iff.mp hname]
        exact ⟨apiVersion, some namespace_, rfl, optionalText_eq_ok_iff.mp hversion,
          optionalText_eq_ok_iff.mp hnamespace⟩
  · obtain ⟨apiVersion, kind, name, namespace_⟩ := r
    rintro ⟨first, last, rfl, hversion, hnamespace⟩
    have hfirst := optionalText_eq_ok_iff.mpr hversion
    cases last with
    | none =>
      cases hnamespace
      simp [ofItems, text, hfirst, bind, Except.bind, pure, Except.pure]
    | some last =>
      have hlast := optionalText_eq_ok_iff.mpr hnamespace
      simp [ofItems, text, hfirst, hlast, bind, Except.bind, pure, Except.pure]

/-! ## References -/

/-- A value is read as a reference exactly when it is one. -/
theorem ofJson_eq_ok_iff {value : Json} {r : TemplateReference} :
    ofJson value = .ok r ↔ Refers value r := by
  constructor
  · intro h
    cases value with
    | object fields =>
      obtain ⟨hversion, hkind, hname, hnamespace⟩ := ofFields_eq_ok_iff.mp h
      exact .object hversion hkind hname hnamespace
    | array items =>
      obtain ⟨first, last, rfl, hversion, hnamespace⟩ := ofItems_eq_ok_iff.mp h
      exact .array hversion hnamespace
    | null => cases h
    | bool b => cases h
    | number n => cases h
    | string s => cases h
  · rintro (⟨hversion, hkind, hname, hnamespace⟩ | ⟨hversion, hnamespace⟩)
    · exact ofFields_eq_ok_iff.mpr ⟨hversion, hkind, hname, hnamespace⟩
    · exact ofItems_eq_ok_iff.mpr ⟨_, _, rfl, hversion, hnamespace⟩

/-- A reference that is written is read back. -/
theorem ofJson_toJson (r : TemplateReference) : ofJson r.toJson = .ok r := by
  obtain ⟨apiVersion, kind, name, namespace_⟩ := r
  cases apiVersion <;> cases namespace_ <;> rfl

end CertRenewal.Machines.TemplateReference
