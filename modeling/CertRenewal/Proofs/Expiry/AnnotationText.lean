import CertRenewal.Proofs.Expiry.AnnotationDate
import CertRenewal.Proofs.Expiry.AnnotationEntries

/-!
# An annotation is read back as it was written

`annotationText` writes entries with their braces, and commas between them, and
`parse_annotationText` reads the same entries back. The name of a certificate may have the characters
of the form in it; `CertificateName` says what keeps it apart from the colon, the braces and the cuts
around it.
-/

namespace CertRenewal.Expiry.Annotations

open CertRenewal.Text (isBlank)

/-- A name that an annotation can hold. It may be empty, and have braces and commas in it. -/
structure CertificateName where
  text : String
  colon_not_mem : ':' ∉ text.toList
  not_separated : ¬ ['}', ','] <:+: text.toList
  head_not_brace : ∀ c ∈ text.toList.head?, c ≠ '{'
  head_not_blank : ∀ c ∈ text.toList.head?, isBlank c = false
  last_not_blank : ∀ c ∈ text.toList.getLast?, isBlank c = false

/-- An entry to be written, with the blanks in front of it. -/
structure WrittenEntry where
  blanks : List Char
  name : CertificateName
  expiry : Minute
  blanks_blank : ∀ c ∈ blanks, isBlank c = true

def zone : List Char := [' ', 'U', 'T', 'C']

namespace WrittenEntry

def body (e : WrittenEntry) : List Char :=
  e.name.text.toList ++ ':' :: ' ' :: e.expiry.dateText ++ zone

/-- The entry as it is written, up to the brace that closes it. -/
def opened (e : WrittenEntry) : List Char := e.blanks ++ '{' :: e.body

def piece (e : WrittenEntry) : List Char := e.opened ++ ['}']

def entry (e : WrittenEntry) : Entry := (e.name.text, e.expiry.instant)

end WrittenEntry

/-- The entries as they stand in an annotation, joined by commas. -/
def annotationText (entries : List WrittenEntry) : String :=
  String.ofList (Text.join [','] (entries.map WrittenEntry.piece))

/-! ## Dates -/

theorem last_append_zone (s : List Char) : (s ++ zone).getLast? = some 'C' :=
  List.getLast?_append_of_ne_nil s (List.cons_ne_nil _ _)

/-- The zone at the end is removed, and nothing before the blank in it. -/
theorem dropZones_append (s : List Char) : dropZones (s ++ zone) = s ++ [' '] := by
  have hreverse : (s ++ zone).reverse = 'C' :: 'T' :: 'U' :: ' ' :: s.reverse := by simp [zone]
  have hstop : ∀ n, dropZones.go (' ' :: s.reverse) n = s ++ [' '] := by
    intro n
    cases n <;> simp [dropZones.go]
  rw [dropZones, hreverse]
  exact hstop _

/-- The date of an entry is what remains without the blanks and the zone. -/
theorem trim_dropZones_dateText (m : Minute) :
    Text.trim (dropZones (Text.trim (' ' :: m.dateText ++ zone))) = m.dateText := by
  obtain ⟨c, cs, hdate, hc⟩ := m.head_dateText
  have hhead : ∀ s, ∀ d ∈ (m.dateText ++ s).head?, isBlank d = false := by
    intro s d hd
    rw [hdate, List.cons_append, List.head?_cons, Option.mem_some_iff] at hd
    exact hd ▸ hc
  have hlast : ∀ d ∈ (m.dateText ++ zone).getLast?, isBlank d = false := by
    intro d hd
    rw [last_append_zone] at hd
    cases hd
    rfl
  have hblank : ∀ d ∈ [' '], isBlank d = true := List.forall_mem_singleton.mpr rfl
  have hzoned : Text.trim (' ' :: m.dateText ++ zone) = m.dateText ++ zone := by
    simpa using Text.trim_append (v := []) hblank (by simp) (hhead _) hlast
  have hdated : Text.trim (m.dateText ++ [' ']) = m.dateText := by
    simpa using Text.trim_append (u := []) (by simp) hblank (by simpa using hhead [])
      m.last_dateText
  rw [hzoned, dropZones_append, hdated]

/-! ## Entries -/

/-- What stands between the braces of an entry is read as the entry. -/
theorem reads_body (e : WrittenEntry) : Reads e.body e.entry := by
  have hname : Text.trim e.name.text.toList = e.name.text.toList := by
    simpa using Text.trim_append (u := []) (v := []) (by simp) (by simp) e.name.head_not_blank
      e.name.last_not_blank
  have hreads : Reads (e.name.text.toList ++ ':' :: (' ' :: e.expiry.dateText ++ zone))
      (String.ofList (Text.trim e.name.text.toList), e.expiry.instant) :=
    .entry e.name.colon_not_mem (by
      rw [trim_dropZones_dateText]
      exact AnnotationDate.parse_dateText e.expiry)
  rw [hname, String.ofList_toList] at hreads
  simpa [WrittenEntry.body, WrittenEntry.entry] using hreads

/-- What stands between the braces ends with the zone, and so not with a brace. -/
theorem last_body (e : WrittenEntry) : e.body.getLast? = some 'C' := last_append_zone _

/-- Nor does it begin with one, since a name does not. -/
theorem exists_body (e : WrittenEntry) : ∃ c cs, e.body = c :: cs ∧ c ≠ '{' := by
  have hhead := e.name.head_not_brace
  rw [WrittenEntry.body]
  cases hname : e.name.text.toList with
  | nil => exact ⟨':', _, rfl, by decide⟩
  | cons c cs => exact ⟨c, _, rfl, hhead c (by rw [hname]; rfl)⟩

/-- The braces around an entry are removed, those of its name are not. The brace that closes an
entry with another one behind it goes with the cut, so that there may be none. -/
theorem unwrap_opened (e : WrittenEntry) {closing : List Char} (hclosing : ∀ c ∈ closing, c = '}') :
    unwrap (e.opened ++ closing) = e.body := by
  obtain ⟨c, cs, hbody, hc⟩ := exists_body e
  have hlast : ∀ d ∈ ('{' :: e.body ++ closing).getLast?, isBlank d = false := by
    intro d hd
    rw [List.getLast?_append] at hd
    cases hend : closing.getLast? with
    | none =>
      rw [hend, Option.none_or, hbody, List.getLast?_cons_cons, ← hbody, last_body] at hd
      cases hd
      rfl
    | some b =>
      rw [hend, Option.some_or] at hd
      cases hd
      rw [hclosing d (List.mem_of_getLast? hend)]
      rfl
  have htrim : Text.trim (e.opened ++ closing) = '{' :: e.body ++ closing := by
    simpa [WrittenEntry.opened] using Text.trim_append (v := []) e.blanks_blank (by simp)
      (by simp; decide) hlast
  have hopen : ('{' :: e.body ++ closing).dropWhile (· == '{') = e.body ++ closing := by
    refine Text.dropWhile_append_of_head (List.forall_mem_singleton.mpr rfl) fun d hd => ?_
    rw [hbody] at hd
    cases hd
    simpa using hc
  rw [unwrap, htrim, hopen]
  exact Text.dropEndWhile_append_of_last (by simp [last_body]) (by simpa using hclosing)

/-- Within an entry there is no cut: of its parts only the name can have the characters of one. -/
theorem lacksPair_opened (e : WrittenEntry) : Text.LacksPair '}' ',' e.opened := by
  have hblanks : Text.LacksPair '}' ',' (e.blanks ++ ['{']) := by
    refine Text.lacksPair_of_not_mem fun h => ?_
    rcases List.mem_append.mp h with hblank | hbrace
    · exact absurd (e.blanks_blank _ hblank) (by decide)
    · exact absurd hbrace (by decide)
  have hname : Text.LacksPair '}' ',' e.name.text.toList :=
    Text.lacksPair_of_absent e.name.not_separated
  have hdate : Text.LacksPair '}' ',' (':' :: ' ' :: e.expiry.dateText ++ zone) := by
    refine Text.lacksPair_of_not_mem fun h => ?_
    rcases List.mem_append.mp h with hdate | hzone
    · exact absurd hdate (by simpa using e.expiry.brace_not_mem_dateText)
    · exact absurd hzone (by decide)
  have hbody : Text.LacksPair '}' ',' e.body := by
    rw [WrittenEntry.body, List.append_assoc]
    refine List.isChain_append.mpr ⟨hname, hdate, fun c _ d hd hpair => ?_⟩
    cases hd
    exact absurd hpair.2 (by decide)
  rw [WrittenEntry.opened, List.append_cons]
  refine List.isChain_append.mpr ⟨hblanks, hbody, fun c hc d _ hpair => ?_⟩
  rw [List.getLast?_concat] at hc
  cases hc
  exact absurd hpair.1 (by decide)

theorem last_opened (e : WrittenEntry) : e.opened.getLast? = some 'C' := by
  obtain ⟨c, cs, hbody, -⟩ := exists_body e
  rw [WrittenEntry.opened, List.append_cons,
    List.getLast?_append_of_ne_nil _ (by rw [hbody]; exact List.cons_ne_nil c cs), last_body]

/-- An entry is one piece, with the brace that closes it or without. -/
theorem entryTexts_opened (e : WrittenEntry) {closing : List Char}
    (hclosing : closing = [] ∨ closing = ['}']) : entryTexts (e.opened ++ closing) = [e.body] := by
  obtain ⟨c, cs, hbody, -⟩ := exists_body e
  have hpair : Text.LacksPair '}' ',' closing := by
    rcases hclosing with rfl | rfl
    · exact .nil
    · exact .singleton _
  have hwhole : Text.LacksPair '}' ',' (e.opened ++ closing) := by
    refine List.isChain_append.mpr ⟨lacksPair_opened e, hpair, fun c hc d _ hcut => ?_⟩
    rw [last_opened] at hc
    cases hc
    exact absurd hcut.1 (by decide)
  have hbraces : ∀ c ∈ closing, c = '}' := by
    rcases hclosing with rfl | rfl <;> simp
  rw [entryTexts, Text.splitOn_eq_singleton_pair hwhole, List.map_singleton,
    unwrap_opened e hbraces, hbody]
  rfl

/-- The texts of the entries of an annotation are those that were put between braces. -/
theorem entryTexts_join (entries : List WrittenEntry) :
    entryTexts (Text.join [','] (entries.map WrittenEntry.piece)) =
      entries.map WrittenEntry.body := by
  induction entries with
  | nil => rfl
  | cons e entries ih =>
    cases entries with
    | nil => exact entryTexts_opened e (.inr rfl)
    | cons f entries =>
      have hcut : Text.join [','] ((e :: f :: entries).map WrittenEntry.piece) =
          e.opened ++ '}' :: ',' :: Text.join [','] ((f :: entries).map WrittenEntry.piece) := by
        simp [Text.join, WrittenEntry.piece]
      have hopened := entryTexts_opened e (.inl rfl)
      rw [List.append_nil] at hopened
      rw [hcut, entryTexts_append, hopened, ih]
      rfl

/-- Entries that are written into an annotation are read back, in their order. -/
theorem parse_annotationText (entries : List WrittenEntry) :
    parse (annotationText entries) = .ok (entries.map WrittenEntry.entry) := by
  rw [parse_eq_ok_iff, annotationText, String.toList_ofList, entryTexts_join,
    List.forall₂_map_left_iff, List.forall₂_map_right_iff, List.forall₂_same]
  exact fun e _ => reads_body e

/-- The braces of a name stay. -/
example : parse "\x7b\x7d: Feb 29, 2000 00:00 UTC\x7d" = .ok [("\x7d", .ofSeconds 951782400)] := rfl

end CertRenewal.Expiry.Annotations
