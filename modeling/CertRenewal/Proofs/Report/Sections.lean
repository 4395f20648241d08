import CertRenewal.Proofs.Expiry.Completeness
import CertRenewal.Proofs.Json.PatchText
import CertRenewal.Proofs.Report.Table
import CertRenewal.Proofs.Text.Digits

/-!
# The lines of the table

`Table.lines` lists the lines of a table without a state: a section that lists a certificate has an
empty line, its title and the headings of its columns, and then a line for every certificate that
belongs to it, in the order of the report. A section without certificates has no lines, whatever
groups it has.

`render_table_lines` is the main statement: these are the lines that are written by way of the flag
that says whether a header has been written. Names may contain line breaks; in a report where none
does, the lines are those that the text is cut into.
-/

namespace CertRenewal.Report

/-! ## Rows -/

/-- A source, for people. -/
def Source.place : Source → String
  | .tls secret namespace_ | .cluster secret namespace_ _ | .user secret namespace_ _ =>
    namespace_ ++ "/" ++ secret
  | .node name => name

/-- A certificate, for people. One of a kubeconfig is named with its entry. -/
def Sighting.label (x : Sighting) : String :=
  match x.source with
  | .tls _ _ | .node _ => x.name
  | .cluster _ _ entry => x.name ++ " (cluster " ++ entry ++ ")"
  | .user _ _ entry => x.name ++ " (user " ++ entry ++ ")"

namespace Table

def Row.ofSighting (x : Sighting) : Row := ⟨x.label.toList, x.source.place.toList, x.expiry⟩

theorem tlsRows_eq (s : TlsSecret) : tlsRows s = s.sightings.map Row.ofSighting := by
  rw [TlsSecret.sightings, List.map_map]
  refine List.map_congr_left fun c _ => ?_
  simp [Row.ofSighting, Sighting.label, Source.place, secretLocation]

/-- The rows of a kubeconfig are its certificates, the clusters before the users. -/
theorem kubeconfigRows_eq (s : KubeconfigSecret) :
    kubeconfigRows s = s.sightings.map Row.ofSighting := by
  rw [KubeconfigSecret.sightings, List.map_append, List.map_map, List.map_map, kubeconfigRows]
  congr 1 <;> refine List.map_congr_left fun c _ => ?_ <;>
    simp [entryRow, Row.ofSighting, Sighting.label, Source.place, secretLocation]

theorem nodeRows_eq (n : NodeCertificates) : nodeRows n = n.sightings.map Row.ofSighting := by
  rw [NodeCertificates.sightings, List.map_map]
  exact List.map_congr_left fun c _ => rfl

/-! ## Lines -/

inductive Line where
  | blank
  | title (s : Section)
  | headings (s : Section)
  | entry (x : Sighting)
  deriving DecidableEq, Repr

/-- Three columns, the first two of which are filled up with spaces to 48 characters. -/
def columns (first second third : List Char) : List Char :=
  first.rightpad 48 ' ' ++ ' ' :: second.rightpad 48 ' ' ++ ' ' :: third

def Line.text : Line → List Char
  | .blank => []
  | .title s => s.title.toList
  | .headings s => columns "CERTIFICATE".toList s.location.toList "EXPIRY DATE".toList
  | .entry x => columns x.label.toList x.source.place.toList x.expiry.displayText

/-- The certificate that a line lists. -/
def Line.sighting? : Line → Option Sighting
  | .entry x => some x
  | .blank | .title _ | .headings _ => none

def sectionLines (s : Section) : List Sighting → List Line
  | [] => []
  | x :: more => .blank :: .title s :: .headings s :: (x :: more).map .entry

/-- The sections of a report in their order, with the certificates that belong to them. -/
def sections (r : Report) : List (Section × List Sighting) :=
  [(⟨"TLS SECRETS", "SECRET"⟩, r.tlsSecrets.flatMap (·.sightings)),
    (⟨"KUBECONFIG SECRETS", "SECRET"⟩, r.kubeconfigs.flatMap (·.sightings)),
    (⟨"NODE CERTIFICATES", "NODE"⟩, r.nodes.flatMap (·.sightings))]

def lines (r : Report) : List Line := (sections r).flatMap fun (s, xs) => sectionLines s xs

/-- Lines as a text, in which a line break ends each of them. -/
def linesText (lines : List Line) : List Char := lines.flatMap fun l => l.text ++ ['\n']

theorem linesText_append (lines more : List Line) :
    linesText (lines ++ more) = linesText lines ++ linesText more := List.flatMap_append

/-- The rows of a section with its header are its lines. -/
theorem rowsText_eq (s : Section) (xs : List Sighting) :
    rowsText s false (xs.map Row.ofSighting) = linesText (sectionLines s xs) := by
  have hentries : (xs.map Row.ofSighting).flatMap Row.text = linesText (xs.map .entry) := by
    rw [linesText, List.flatMap_map, List.flatMap_map]
    refine List.flatMap_congr fun x _ => ?_
    simp [Row.text, Row.ofSighting, Line.text, columns, line, padded, columnWidth, List.rightpad]
  rw [rowsText, hentries]
  cases xs with
  | nil => rfl
  | cons x more =>
    simp [sectionLines, linesText, Line.text, columns, header, line, padded, columnWidth,
      List.rightpad]

/-- The table that is written by way of the flag has these lines. -/
theorem layout_eq (r : Report) : layout r = linesText (lines r) := by
  have htls : r.tlsSecrets.flatMap tlsRows =
      (r.tlsSecrets.flatMap (·.sightings)).map Row.ofSighting := by
    rw [List.map_flatMap, funext tlsRows_eq]
  have hkubeconfigs : r.kubeconfigs.flatMap kubeconfigRows =
      (r.kubeconfigs.flatMap (·.sightings)).map Row.ofSighting := by
    rw [List.map_flatMap, funext kubeconfigRows_eq]
  have hnodes : r.nodes.flatMap nodeRows = (r.nodes.flatMap (·.sightings)).map Row.ofSighting := by
    rw [List.map_flatMap, funext nodeRows_eq]
  rw [layout, htls, hkubeconfigs, hnodes, rowsText_eq, rowsText_eq, rowsText_eq,
    ← linesText_append, ← linesText_append]
  simp [lines, sections, tlsSection, kubeconfigSection, nodeSection]

/-! ## What the lines are -/

/-- The entries of a section are its certificates. -/
theorem filterMap_sighting?_sectionLines (s : Section) (xs : List Sighting) :
    (sectionLines s xs).filterMap Line.sighting? = xs := by
  have hentries : (xs.map Line.entry).filterMap Line.sighting? = xs := by
    rw [List.filterMap_map]
    exact List.filterMap_some
  cases xs with
  | nil => rfl
  | cons x more => exact hentries

/-- The lines list every certificate of a report once, in its order. -/
theorem filterMap_sighting?_lines (r : Report) :
    (lines r).filterMap Line.sighting? = r.sightings := by
  simp [lines, sections, filterMap_sighting?_sectionLines, sightings]

/-- A section has its own header once, if it lists a certificate, and no other. -/
theorem count_header_sectionLines (s t : Section) (xs : List Sighting) :
    (sectionLines t xs).count (.title s) = (if t = s then (if xs = [] then 0 else 1) else 0) ∧
      (sectionLines t xs).count (.headings s) =
        if t = s then (if xs = [] then 0 else 1) else 0 := by
  cases xs with
  | nil => simp [sectionLines]
  | cons x more =>
    have hentries : ∀ l : Line, (∀ x, l ≠ .entry x) → ((x :: more).map Line.entry).count l = 0 := by
      intro l hl
      refine List.count_eq_zero.mpr fun hmem => ?_
      obtain ⟨y, -, hy⟩ := List.mem_map.mp hmem
      exact hl y hy.symm
    simp only [sectionLines, List.count_cons, hentries (.title s) (by simp),
      hentries (.headings s) (by simp)]
    by_cases h : t = s <;> simp [h]

/-- The header of a section is there once when it lists a certificate, and otherwise not at all. -/
theorem count_header_lines {r : Report} {s : Section} {xs : List Sighting}
    (h : (s, xs) ∈ sections r) :
    (lines r).count (.title s) = (if xs = [] then 0 else 1) ∧
      (lines r).count (.headings s) = if xs = [] then 0 else 1 := by
  simp only [sections, List.mem_cons, List.not_mem_nil, or_false, Prod.mk.injEq] at h
  simp only [lines, sections, List.flatMap_cons, List.flatMap_nil, List.count_append,
    List.count_nil, count_header_sectionLines]
  obtain ⟨rfl, rfl⟩ | ⟨rfl, rfl⟩ | ⟨rfl, rfl⟩ := h <;> simp

/-! ## Lines in the text -/

/-- There is no line break in a date. -/
theorem newline_not_mem_displayText (t : Instant) : '\n' ∉ t.displayText := by
  have hdigits : ∀ width n, '\n' ∉ Text.paddedDigits width n := fun _ _ h =>
    absurd (Text.isDigit_of_mem_paddedDigits h) (by decide)
  have hyear : ∀ year, '\n' ∉ Date.yearText year := by
    intro year
    rw [Date.yearText]
    split
    · simp [hdigits]
    · split <;> simp [hdigits]
  have hfraction : '\n' ∉ t.fractionText := by
    rw [Instant.fractionText]
    split
    · simp
    · split
      · simp [hdigits]
      · split <;> simp [hdigits]
  simp [Instant.displayText, Date.text, Instant.timeText, hdigits, hyear, hfraction]

theorem newline_not_mem_columns {first second third : List Char} (hfirst : '\n' ∉ first)
    (hsecond : '\n' ∉ second) (hthird : '\n' ∉ third) : '\n' ∉ columns first second third := by
  simp [columns, List.rightpad, hfirst, hsecond, hthird]

/-- Lines without line breaks are those that their text is cut into. -/
theorem splitOn_linesText {lines : List Line} (h : ∀ l ∈ lines, '\n' ∉ l.text) :
    Text.splitOn ['\n'] (linesText lines) = lines.map Line.text ++ [[]] := by
  induction lines with
  | nil => rfl
  | cons l more ih =>
    obtain ⟨hl, hmore⟩ := List.forall_mem_cons.mp h
    rw [linesText, List.flatMap_cons, List.append_assoc, List.singleton_append, List.map_cons,
      List.cons_append, ← ih hmore]
    exact Text.splitOnFrom_append_cons hl _

/-- The headers and entries of a table come from its sections. -/
theorem mem_lines {r : Report} {l : Line} (h : l ∈ lines r) :
    l = .blank ∨ (∃ s xs, (s, xs) ∈ sections r ∧ (l = .title s ∨ l = .headings s)) ∨
      ∃ x ∈ r.sightings, l = .entry x := by
  have hentry : ∀ x, l = .entry x → x ∈ r.sightings := by
    rintro x rfl
    rw [← filterMap_sighting?_lines]
    exact List.mem_filterMap.mpr ⟨_, h, rfl⟩
  obtain ⟨⟨s, xs⟩, hsection, hl⟩ := List.mem_flatMap.mp h
  cases l with
  | blank => exact Or.inl rfl
  | entry x => exact Or.inr (Or.inr ⟨x, hentry x rfl, rfl⟩)
  | title t =>
    have ht : t = s := by
      cases xs <;> simp_all [sectionLines]
    exact Or.inr (Or.inl ⟨s, xs, hsection, Or.inl (by rw [ht])⟩)
  | headings t =>
    have ht : t = s := by
      cases xs <;> simp_all [sectionLines]
    exact Or.inr (Or.inl ⟨s, xs, hsection, Or.inr (by rw [ht])⟩)

/-- There are three sections. -/
theorem section_cases {r : Report} {s : Section} {xs : List Sighting} (h : (s, xs) ∈ sections r) :
    s = tlsSection ∨ s = kubeconfigSection ∨ s = nodeSection := by
  simp only [sections, List.mem_cons, List.not_mem_nil, or_false, Prod.mk.injEq] at h
  exact h.imp And.left (Or.imp And.left And.left)

/-- Where no name has a line break, no line has one. -/
theorem newline_not_mem_text {r : Report}
    (hnames : ∀ x ∈ r.sightings, '\n' ∉ x.label.toList ∧ '\n' ∉ x.source.place.toList) :
    ∀ l ∈ lines r, '\n' ∉ l.text := by
  intro l hl
  obtain rfl | ⟨s, xs, hs, rfl | rfl⟩ | ⟨x, hx, rfl⟩ := mem_lines hl
  · exact List.not_mem_nil
  · obtain rfl | rfl | rfl := section_cases hs <;> decide
  · obtain rfl | rfl | rfl := section_cases hs <;> decide
  · exact newline_not_mem_columns (hnames x hx).1 (hnames x hx).2 (newline_not_mem_displayText _)

theorem lt_length_columns (first second third : List Char) :
    96 < (columns first second third).length := by
  have hfirst := List.length_rightpad (n := 48) (a := ' ') (l := first)
  have hsecond := List.length_rightpad (n := 48) (a := ' ') (l := second)
  simp only [columns, List.length_append, List.length_cons, hfirst, hsecond]
  omega

/-- A line with columns is longer than any title, so that only the title itself reads like it. -/
theorem text_eq_title_iff {r : Report} {s : Section} {xs : List Sighting} {l : Line}
    (hs : (s, xs) ∈ sections r) (hl : l ∈ lines r) :
    l.text = s.title.toList ↔ l = .title s := by
  have hshort : s.title.toList.length ≤ 96 := by
    obtain rfl | rfl | rfl := section_cases hs <;> decide
  have hlong : ∀ first second third, columns first second third ≠ s.title.toList := by
    intro first second third h
    have hlength := lt_length_columns first second third
    rw [h] at hlength
    omega
  obtain rfl | ⟨t, ys, ht, rfl | rfl⟩ | ⟨x, -, rfl⟩ := mem_lines hl
  · obtain rfl | rfl | rfl := section_cases hs <;> decide
  · obtain rfl | rfl | rfl := section_cases hs <;>
      obtain rfl | rfl | rfl := section_cases ht <;> decide
  · exact iff_of_false (hlong _ _ _) (by simp)
  · exact iff_of_false (hlong _ _ _) (by simp)

/-- A title is as often among the texts of the lines as among the lines. -/
theorem count_title_text {r : Report} {s : Section} {xs : List Sighting}
    (hs : (s, xs) ∈ sections r) :
    ((lines r).map Line.text).count s.title.toList = (lines r).count (.title s) := by
  rw [List.count, List.count, List.countP_map]
  refine List.countP_congr fun l hl => ?_
  simp [text_eq_title_iff hs hl]

end Table

/-- The table of a report. It has the lines of its sections in their order; every certificate has a
row, in the order of the report, and the header of a section is there once when the section lists a
certificate, and otherwise not at all. When no name has a line break, these are the lines that the
text is cut into, and so the titles in it are those of the headers. -/
theorem render_table_lines (r : Report) :
    r.render .table = Text.Utf8.encode (Table.linesText (Table.lines r)) ∧
      (Table.lines r).filterMap Table.Line.sighting? = r.sightings ∧
      (∀ s xs, (s, xs) ∈ Table.sections r →
        (Table.lines r).count (.title s) = (if xs = [] then 0 else 1) ∧
        (Table.lines r).count (.headings s) = if xs = [] then 0 else 1) ∧
      ((∀ x ∈ r.sightings, '\n' ∉ x.label.toList ∧ '\n' ∉ x.source.place.toList) →
        Text.splitOn ['\n'] (Table.linesText (Table.lines r)) =
          (Table.lines r).map Table.Line.text ++ [[]] ∧
        ∀ s xs, (s, xs) ∈ Table.sections r →
          (Text.splitOn ['\n'] (Table.linesText (Table.lines r))).count s.title.toList =
            if xs = [] then 0 else 1) := by
  refine ⟨?_, Table.filterMap_sighting?_lines r, fun s xs => Table.count_header_lines,
    fun hnames => ?_⟩
  · rw [render_table, Table.layout_eq]
  · have hsplit := Table.splitOn_linesText (Table.newline_not_mem_text hnames)
    refine ⟨hsplit, fun s xs hs => ?_⟩
    have htitle : [[]].count s.title.toList = 0 := by
      obtain rfl | rfl | rfl := Table.section_cases hs <;> decide
    rw [hsplit, List.count_append, htitle, Nat.add_zero, Table.count_title_text hs,
      (Table.count_header_lines hs).1]

/-- A secret without certificates does not bring about a header. -/
example :
    Table.lines ⟨[⟨"ingress", "default", []⟩], [],
        [⟨"master-0", [⟨"admin.conf", Instant.ofSeconds 0⟩]⟩]⟩ =
      [.blank, .title Table.nodeSection, .headings Table.nodeSection,
        .entry ⟨.node "master-0", "admin.conf", Instant.ofSeconds 0⟩] := rfl

end CertRenewal.Report
