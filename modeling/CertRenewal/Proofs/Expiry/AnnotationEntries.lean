import CertRenewal.Expiry.Error
import CertRenewal.Proofs.Faults
import CertRenewal.Proofs.Text.Pieces

/-!
# An annotation is read entry by entry

`Reads` says what the text of an entry tells, and `Fails` why it tells nothing; both look at this
text alone. An annotation is cut into such texts at each closing brace with a comma behind it, so
that what stands on one side of a cut has no part in the reading of the other side
(`entryTexts_append`). `parse_append` is the main statement.
-/

namespace CertRenewal.Expiry.Annotations

/-! ## Entries -/

/-- What the text of an entry tells: the name of a certificate, and behind a colon the instant of a
date. -/
inductive Reads : List Char → Entry → Prop where
  | entry {name date : List Char} {t : Instant} (hname : ':' ∉ name)
      (hdate : AnnotationDate.parse (Text.trim (dropZones (Text.trim date))) = .ok t) :
      Reads (name ++ ':' :: date) (String.ofList (Text.trim name), t)

/-- Why the text of an entry tells nothing: there is no colon, or no date behind it. -/
inductive Fails : List Char → Error → Prop where
  | entry {text : List Char} (htext : ':' ∉ text) : Fails text (.entry (String.ofList text))
  | date {name date : List Char} {cause : AnnotationDate.Error} (hname : ':' ∉ name)
      (hdate : AnnotationDate.parse (Text.trim (dropZones (Text.trim date))) = .error cause) :
      Fails (name ++ ':' :: date)
        (.date (String.ofList (Text.trim name)) (String.ofList (Text.trim date)) cause)

/-- An entry without a colon is refused as it is. -/
theorem parseEntry_of_not_mem {text : List Char} (h : ':' ∉ text) :
    parseEntry text = .error (.entry (String.ofList text)) := by
  rw [parseEntry, Text.cut_eq_none_iff.mpr h]

/-- Behind its first colon an entry has a date. -/
theorem parseEntry_append {name : List Char} (h : ':' ∉ name) (date : List Char) :
    parseEntry (name ++ ':' :: date) =
      match AnnotationDate.parse (Text.trim (dropZones (Text.trim date))) with
      | .ok t => .ok (String.ofList (Text.trim name), t)
      | .error cause =>
        .error (.date (String.ofList (Text.trim name)) (String.ofList (Text.trim date)) cause) := by
  cases hdate : AnnotationDate.parse (Text.trim (dropZones (Text.trim date))) <;>
    simp only [parseEntry, Text.cut_append_cons h, hdate]

/-- An entry is read as what its text tells. -/
theorem parseEntry_eq_ok_iff {text : List Char} {entry : Entry} :
    parseEntry text = .ok entry ↔ Reads text entry := by
  constructor
  · intro h
    cases hcut : Text.cut ':' text with
    | none =>
      rw [parseEntry_of_not_mem (Text.cut_eq_none_iff.mp hcut)] at h
      cases h
    | some parts =>
      obtain ⟨rfl, hname⟩ := Text.cut_eq_some_iff.mp hcut
      rw [parseEntry_append hname] at h
      cases hdate : AnnotationDate.parse (Text.trim (dropZones (Text.trim parts.2))) with
      | error cause =>
        rw [hdate] at h
        cases h
      | ok t =>
        rw [hdate] at h
        cases h
        exact .entry hname hdate
  · rintro ⟨hname, hdate⟩
    rw [parseEntry_append hname, hdate]

/-- The error of an entry is the reason for which its text tells nothing. -/
theorem parseEntry_eq_error_iff {text : List Char} {e : Error} :
    parseEntry text = .error e ↔ Fails text e := by
  constructor
  · intro h
    cases hcut : Text.cut ':' text with
    | none =>
      have hcolon := Text.cut_eq_none_iff.mp hcut
      rw [parseEntry_of_not_mem hcolon] at h
      cases h
      exact .entry hcolon
    | some parts =>
      obtain ⟨rfl, hname⟩ := Text.cut_eq_some_iff.mp hcut
      rw [parseEntry_append hname] at h
      cases hdate : AnnotationDate.parse (Text.trim (dropZones (Text.trim parts.2))) with
      | error cause =>
        rw [hdate] at h
        cases h
        exact .date hname hdate
      | ok t =>
        rw [hdate] at h
        cases h
  · rintro (hcolon | ⟨hname, hdate⟩)
    · exact parseEntry_of_not_mem hcolon
    · rw [parseEntry_append hname, hdate]

/-! ## Annotations -/

/-- The texts of the entries on either side of a cut are found apart. -/
theorem entryTexts_append (a b : List Char) :
    entryTexts (a ++ '}' :: ',' :: b) = entryTexts a ++ entryTexts b := by
  rw [entryTexts, Text.splitOn_append_pair (by decide), List.map_append, List.filter_append,
    entryTexts, entryTexts]

/-- A comma behind a brace parts the entries before it from those behind it. -/
theorem entryTexts_toList_append (a b : String) :
    entryTexts (a ++ "\x7d," ++ b).toList = entryTexts a.toList ++ entryTexts b.toList := by
  have htexts : (a ++ "\x7d," ++ b).toList = a.toList ++ '}' :: ',' :: b.toList := by
    rw [String.toList_append, String.toList_append, List.append_assoc]
    rfl
  rw [htexts, entryTexts_append]

/-- An annotation is read when all its entries are. -/
theorem parse_eq_ok_iff {value : String} {entries : List Entry} :
    parse value = .ok entries ↔ List.Forall₂ Reads (entryTexts value.toList) entries := by
  rw [parse, mapM_eq_ok_iff]
  simp only [parseEntry_eq_ok_iff]

/-- The first entry that tells nothing decides the error. -/
theorem parse_eq_error_iff {value : String} {e : Error} :
    parse value = .error e ↔
      ∃ before text after, entryTexts value.toList = before ++ text :: after ∧
        (∀ t ∈ before, ∃ entry, Reads t entry) ∧ Fails text e := by
  rw [parse, mapM_eq_error_iff]
  simp only [parseEntry_eq_ok_iff, parseEntry_eq_error_iff]

/-- For every node. Of an annotation that is cut, the error of the first part comes first, then that
of the second, and without one there are the entries of the first part followed by those of the
second. What decides an error is the first entry from the left that tells nothing, by its own text;
otherwise there is one entry for each text, in their order, and it is what this text tells. -/
theorem parse_append (node : String) :
    let read := fun value : String => (parse value).mapError (Expiry.Error.annotations node)
    (∀ a b : String,
      entryTexts (a ++ "\x7d," ++ b).toList = entryTexts a.toList ++ entryTexts b.toList ∧
      read (a ++ "\x7d," ++ b) =
        match read a, read b with
        | .error e, _ => .error e
        | .ok _, .error e => .error e
        | .ok entries, .ok more => .ok (entries ++ more)) ∧
    (∀ value e, read value = .error e ↔
      ∃ before text after cause, entryTexts value.toList = before ++ text :: after ∧
        (∀ t ∈ before, ∃ entry, Reads t entry) ∧ Fails text cause ∧
        e = .annotations node cause) ∧
    ∀ value entries, read value = .ok entries ↔
      List.Forall₂ Reads (entryTexts value.toList) entries := by
  intro read
  refine ⟨fun a b => ⟨entryTexts_toList_append a b, ?_⟩, fun value e => ?_, fun value entries => ?_⟩
  · have hwhole : parse (a ++ "\x7d," ++ b) =
        (parse a).bind fun entries => (parse b).map fun more => entries ++ more := by
      rw [parse, entryTexts_toList_append, List.mapM_append, parse, parse]
      cases (entryTexts a.toList).mapM parseEntry <;> cases (entryTexts b.toList).mapM parseEntry <;>
        rfl
    simp only [read, hwhole]
    cases parse a <;> cases parse b <;> rfl
  · rw [mapError_eq_error_iff]
    simp only [parse_eq_error_iff]
    constructor
    · rintro ⟨cause, ⟨before, text, after, htexts, hbefore, hfails⟩, he⟩
      exact ⟨before, text, after, cause, htexts, hbefore, hfails, he⟩
    · rintro ⟨before, text, after, cause, htexts, hbefore, hfails, he⟩
      exact ⟨cause, ⟨before, text, after, htexts, hbefore, hfails⟩, he⟩
  · rw [← parse_eq_ok_iff]
    exact mapError_eq_ok_iff

end CertRenewal.Expiry.Annotations
