import CertRenewal.Proofs.Yaml.Block

/-!
# Reading whole documents

A text is read to the tree of the document that is laid out in it (`Document.parse_text`). Carriage
returns and next-line characters may stand for the line breaks of the layout.
-/

namespace CertRenewal.Yaml

/-! ## Characters -/

/-- A text is allowed if it is after its line breaks have been made equal. -/
theorem all_isAllowed_of_normalizeBreaks {text : List Char}
    (h : (normalizeBreaks text).all isAllowed) : text.all isAllowed := by
  fun_induction normalizeBreaks text with
  | case1 rest ih =>
    simp only [List.all_cons, Bool.and_eq_true] at h ⊢
    exact ⟨by decide, by decide, ih h.2⟩
  | case2 c rest _ ih =>
    simp only [List.all_cons, Bool.and_eq_true] at h ⊢
    refine ⟨?_, ih h.2⟩
    by_cases hbreak : c = '\x0d' ∨ c = '\u0085'
    · rcases hbreak with rfl | rfl <;> decide
    · simpa [hbreak] using h.1
  | case3 => rfl

theorem all_isAllowed_indentation (n : Nat) : (indentation n).all isAllowed := by
  simp [indentation, isAllowed]

theorem all_isAllowed_blanks (blanks : List Blank) : (blanks.map Blank.char).all isAllowed := by
  simp only [List.all_map, List.all_eq_true, Function.comp_apply]
  rintro (_ | _) - <;> rfl

theorem all_isAllowed_commentText (comment : Option Comment) :
    (commentText comment).all isAllowed := by
  cases comment with
  | none => rfl
  | some comment =>
    have hline := comment.isLine
    simp only [List.all_eq_true, Bool.and_eq_true] at hline
    simpa [commentText] using ⟨by decide, fun c hc => (hline c hc).1⟩

theorem all_isAllowed_blankText (lines : List BlankLine) : (blankText lines).all isAllowed := by
  have hbreak : isAllowed '\n' := rfl
  induction lines with
  | nil => rfl
  | cons l lines ih =>
    simp only [blankText_cons, List.all_append, List.all_cons, all_isAllowed_indentation,
      all_isAllowed_commentText, hbreak, ih, Bool.and_self]

theorem Trail.all_isAllowed_text (t : Trail) : t.text.all isAllowed := by
  simp only [Trail.text, List.all_append, all_isAllowed_blanks, all_isAllowed_commentText,
    Bool.and_self]

theorem Lines.all_isAllowed_text (l : Lines) : l.text.all isAllowed := by
  have hbreak : isAllowed '\n' := rfl
  simp only [Lines.text, List.all_append, List.all_cons, l.trail.all_isAllowed_text,
    all_isAllowed_blankText, hbreak, Bool.and_self]

theorem Ending.all_isAllowed_text (e : Ending) : e.text.all isAllowed := by
  cases e with
  | inLine trail => exact trail.all_isAllowed_text
  | later lines last =>
    simp only [Ending.text, BlankLine.text, List.all_append, lines.all_isAllowed_text,
      all_isAllowed_indentation, all_isAllowed_commentText, Bool.and_self]

theorem Scalar.all_isAllowed_text (scalar : Scalar) : scalar.text.all isAllowed := by
  have hword : scalar.word.text.all isAllowed := by
    rw [List.all_eq_true]
    exact fun c hc => (isWordChar_iff.mp (scalar.word.isWordChar_of_mem hc)).1
  have hmark : scalar.quotes.mark.all isAllowed := by
    cases scalar.quotes <;> rfl
  simp only [Scalar.text, List.all_append, hword, hmark, Bool.and_self]

theorem Leaf.all_isAllowed_text (leaf : Leaf) : leaf.text.all isAllowed := by
  cases leaf with
  | scalar scalar => exact scalar.all_isAllowed_text
  | brackets => rfl
  | braces => rfl

mutual

/-- Nothing in the text of content is refused by the reader. -/
theorem Content.all_isAllowed_text (column : Nat) :
    ∀ content : Content, (content.text column).all isAllowed
  | .leaf leaf => leaf.all_isAllowed_text
  | .sequence items => items.all_isAllowed_text column
  | .mapping entries => entries.all_isAllowed_text column

theorem Items.all_isAllowed_text (column : Nat) :
    ∀ items : Items, (items.text column).all isAllowed
  | .last spaces content => by
    have hdash : isAllowed '-' := rfl
    have hspace : isAllowed ' ' := rfl
    simp only [Items.text, List.all_append, List.all_cons, hdash, hspace,
      all_isAllowed_indentation, content.all_isAllowed_text, Bool.and_self]
  | .cons spaces content lines more => by
    have hdash : isAllowed '-' := rfl
    have hspace : isAllowed ' ' := rfl
    simp only [Items.text, List.all_append, List.all_cons, hdash, hspace,
      all_isAllowed_indentation, content.all_isAllowed_text, lines.all_isAllowed_text,
      more.all_isAllowed_text, Bool.and_self]

theorem Entries.all_isAllowed_text (column : Nat) :
    ∀ entries : Entries, (entries.text column).all isAllowed
  | .last key value => by
    have hcolon : isAllowed ':' := rfl
    simp only [Entries.text, List.all_append, List.all_cons, hcolon,
      key.scalar.all_isAllowed_text, value.all_isAllowed_text, Bool.and_self]
  | .cons key value lines more => by
    have hcolon : isAllowed ':' := rfl
    simp only [Entries.text, List.all_append, List.all_cons, hcolon,
      key.scalar.all_isAllowed_text, value.all_isAllowed_text, lines.all_isAllowed_text,
      all_isAllowed_indentation, more.all_isAllowed_text, Bool.and_self]

theorem Value.all_isAllowed_text (column : Nat) :
    ∀ value : Value, (value.text column).all isAllowed
  | .nothing => rfl
  | .beside blank more leaf => by
    have hblanks := all_isAllowed_blanks (blank :: more)
    simp only [List.map_cons, List.all_cons, Bool.and_eq_true] at hblanks
    simp only [Value.text, List.all_append, List.all_cons, hblanks, leaf.all_isAllowed_text,
      Bool.and_self]
  | .under lines deeper content => by
    simp only [Value.text, List.all_append, lines.all_isAllowed_text, all_isAllowed_indentation,
      content.all_isAllowed_text, Bool.and_self]

end

theorem Cursor.AtLeaf.isAtMarker_eq {s : Cursor} (h : s.AtLeaf) (mark : Char)
    (hmark : startsLeaf mark = false) : s.isAtMarker mark = false := by
  obtain ⟨c, rest, hrest, hc⟩ := h
  have hne : c ≠ mark := by
    rintro rfl
    exact absurd hc (by simp [hmark])
  have hmarker : isMarker mark (c :: rest) = false := by
    unfold isMarker
    split <;> simp_all
  simp [Cursor.isAtMarker, hrest, hmarker]

namespace Document

variable (d : Document)

theorem all_isAllowed_text : d.text.all isAllowed := by
  have htail : d.tail.all isAllowed := by
    unfold Document.tail
    split
    · exact d.ending.all_isAllowed_text
    · simp only [List.all_append, List.all_cons, Lines.all_isAllowed_text,
        d.ending.all_isAllowed_text, show isAllowed '.' = true from rfl, Bool.and_self]
  have hbody : d.body.all isAllowed := by
    simp only [Document.body, List.all_append, all_isAllowed_indentation,
      d.entries.all_isAllowed_text, htail, Bool.and_self]
  unfold Document.text
  split
  · simp only [List.all_append, all_isAllowed_blankText, hbody, Bool.and_self]
  · simp only [List.all_append, List.all_cons, all_isAllowed_blankText, Lines.all_isAllowed_text,
      hbody, show isAllowed '-' = true from rfl, Bool.and_self]

/-! ## The end of a document -/

def stop : Spot :=
  match d.endMark with
  | none => ⟨0, []⟩
  | some _ => ⟨0, '.' :: '.' :: '.' :: d.ending.text⟩

/-- The end of a document leads out of all of its blocks. -/
theorem leads_tail : Leads d.tail d.stop := by
  unfold Document.tail Document.stop
  cases d.endMark with
  | none => exact leads_ending d.ending
  | some lines => exact leads_lines lines 0 (s := '.' :: '.' :: '.' :: d.ending.text) (by simp; rfl)

theorem isMarker_endMark : isMarker '.' ('.' :: '.' :: '.' :: d.ending.text) := by
  simp [isMarker, (leads_ending d.ending).isBlankOrEnd_head]

theorem atEnd_stop : d.stop.atEnd := by
  unfold Document.stop
  split
  · rfl
  · simp [Spot.atEnd, isDocumentMarker, d.isMarker_endMark]

/-- Where the entries end, nothing follows but a mark. -/
theorem isFinished_stop {s : Cursor} (hs : s.IsAt d.stop) (fuel : Nat) :
    isFinished s (fuel + 1) := by
  unfold Document.stop at hs
  split at hs
  · simp [isFinished, hs.rest_eq]
  · obtain ⟨hrest, hcolumn, -⟩ := hs.of_cons
    have hmarker : s.isAtMarker '.' := by
      simp [Cursor.isAtMarker, hrest, hcolumn, d.isMarker_endMark]
    have hat : ((s.skip 3).nextToken false).IsAt ⟨0, []⟩ :=
      (leads_ending d.ending).isAt (by simp [Cursor.skip, hrest]) rfl
    have hdone : isFinished ((s.skip 3).nextToken false) fuel := by
      cases fuel <;> simp [isFinished, hat.rest_eq]
    simp [isFinished, hmarker, hdone]

/-! ## The beginning of a document -/

def start : Spot := ⟨d.margin, d.entries.text d.margin ++ d.tail⟩

/-- The spot of the first token, which is the mark that begins the document if there is one. -/
def first : Spot :=
  match d.beginMark with
  | none => d.start
  | some lines => ⟨0, '-' :: '-' :: '-' :: (lines.text ++ d.body)⟩

theorem startsLeaf_start : ∃ c rest, d.start.rest = c :: rest ∧ startsLeaf c := by
  obtain ⟨c, rest, htext, hc⟩ := d.entries.exists_text d.margin
  exact ⟨c, rest ++ d.tail, by rw [Document.start, htext]; rfl, hc⟩

/-- A document begins with a leaf, its first key. -/
theorem atLeaf_of_isAt {s : Cursor} (hs : s.IsAt d.start) : s.AtLeaf := by
  obtain ⟨c, rest, htext, hc⟩ := d.startsLeaf_start
  exact ⟨c, rest, hs.rest_eq.trans htext, hc⟩

/-- The entries of a document are read to its root. -/
theorem exists_blockNode (handles : Handles) {fuel : Nat} {s : Cursor} (hs : s.IsAt d.start)
    (hfuel : 4 * (d.entries.text d.margin).length + 3 ≤ fuel) :
    ∃ s', blockNode fuel handles (-1) false .empty s = some (d.node, s') ∧ s'.IsAt d.stop := by
  obtain ⟨s', hentries, hs'⟩ := d.entries.isRead handles fuel d.leads_tail
    (.inl d.atEnd_stop) hfuel hs
  obtain ⟨key, after, htext, hafter⟩ :=
    d.entries.exists_key d.margin d.leads_tail.isBlankOrEnd_head
  obtain ⟨fuel, rfl⟩ := Nat.exists_eq_add_of_le' (Nat.le_of_add_left_le hfuel)
  obtain ⟨hcolumn, hallowed⟩ := hs.place (by simp [Document.start, htext])
  have hnode : blockNode (fuel + 3) handles (-1) false .empty s = _ :=
    blockNode_mapping (hs.rest_eq.trans htext) hafter hallowed (by omega)
  rw [hcolumn, Document.start, hentries] at hnode
  exact ⟨s', hnode, hs'⟩

/-- Behind the mark that begins a document its entries are found. -/
theorem isAt_start (lines : Lines) {s : Cursor} (hrest : s.rest = lines.text ++ d.body)
    (hkey : s.place.keyAllowed = false) : (s.nextToken false).IsAt d.start := by
  obtain ⟨c, rest, htext, hc⟩ := d.startsLeaf_start
  refine (leads_lines lines d.margin fun c' hc' => ?_).isAt hrest hkey
  change c' ∈ d.start.rest.head? at hc'
  obtain rfl : c = c' := by simpa [htext] using hc'
  exact startsToken_of_startsLeaf hc

/-- The root of a document is read behind the mark that begins it. -/
theorem exists_root (handles : Handles) (fuel : Nat) {s : Cursor} (hs : s.IsAt d.first)
    (hfuel : 4 * (d.entries.text d.margin).length + 3 ≤ fuel) :
    ∃ s', root fuel handles s = some (d.node, s') ∧ s'.IsAt d.stop := by
  unfold Document.first at hs
  split at hs
  · have hleaf := d.atLeaf_of_isAt hs
    simpa [root, hleaf.isAtMarker_eq '-' rfl,
      hleaf.isAtMarker_eq '.' rfl] using d.exists_blockNode handles hs hfuel
  · obtain ⟨hrest, hcolumn, -⟩ := hs.of_cons
    rename_i lines hbegin
    have hmarker : s.isAtMarker '-' := by
      have hlines := lines.isBlankOrEnd_text d.body
      simp only [Cursor.isAtMarker, hrest, hcolumn, isMarker, hlines]
      rfl
    have hbody := d.isAt_start lines (s := s.skip 3) (by simp [Cursor.skip, hrest]) rfl
    have hpercent := (d.atLeaf_of_isAt hbody).isAmong_eq ['%'] rfl
    simpa [root, hmarker, hpercent] using d.exists_blockNode handles hbody hfuel

/-- In front of the first token there is nothing but blanks, comments and line breaks. -/
theorem isAt_first : (Cursor.nextToken false ⟨d.text, .first, []⟩).IsAt d.first := by
  unfold Document.first Document.text
  cases d.beginMark with
  | none =>
    obtain ⟨line, hhead⟩ := walk_blankText d.head 0 d.body
    obtain ⟨c, rest, htext, hc⟩ := d.startsLeaf_start
    have hbody : d.body = indentation d.margin ++ c :: rest := by rw [← htext]; rfl
    have hwalk : walk false false .first (blankText d.head ++ d.body) =
        (⟨line, d.margin, true⟩, d.start.rest) := by
      rw [htext]
      refine hhead.trans ?_
      rw [hbody, walk_indentation,
        walk_of_stopsWalk (stopsWalk_of_startsToken (startsToken_of_startsLeaf hc)),
        Place.right, Nat.zero_add]
    rw [Cursor.nextToken, hwalk]
    exact ⟨rfl, fun _ => ⟨rfl, rfl⟩⟩
  | some lines =>
    obtain ⟨line, hhead⟩ := walk_blankText d.head 0 ('-' :: '-' :: '-' :: (lines.text ++ d.body))
    have hwalk := hhead.trans (walk_of_stopsWalk (c := '-') rfl false ⟨line, 0, true⟩ _)
    rw [Cursor.nextToken, show Place.first = ⟨0, 0, true⟩ from rfl, hwalk]
    exact ⟨rfl, fun _ => ⟨rfl, rfl⟩⟩

/-- A document does not begin with a directive. -/
theorem directivesFrom_first {s : Cursor} (hs : s.IsAt d.first) (before : Directives) (fuel : Nat) :
    directivesFrom before s fuel = some (before, s) := by
  have hpercent : s.isAmong ['%'] = false := by
    unfold Document.first at hs
    split at hs
    · exact (d.atLeaf_of_isAt hs).isAmong_eq ['%'] rfl
    · exact hs.isAmong_eq (by simp)
  cases fuel with
  | zero => rfl
  | succ fuel => simp [directivesFrom, hpercent]

/-- The fuel of the reader covers the entries. -/
theorem length_entries_le : (d.entries.text d.margin).length ≤ d.text.length := by
  unfold Document.text Document.body
  split <;> simp only [List.length_append, List.length_cons] <;> omega

theorem length_entries_pos : 0 < (d.entries.text d.margin).length := by
  obtain ⟨c, rest, htext, -⟩ := d.entries.exists_text d.margin
  simp [htext]

/-- Every document that is laid out in block style is read to the tree that it stands for, whichever
characters stand for its line breaks. -/
theorem parse_text {text : List Char} (h : normalizeBreaks text = d.text) :
    Yaml.parse text = some d.node := by
  have hallowed : text.all isAllowed :=
    all_isAllowed_of_normalizeBreaks (h ▸ d.all_isAllowed_text)
  have hle := d.length_entries_le
  have hpos := d.length_entries_pos
  have hfirst := d.isAt_first
  obtain ⟨s', hroot, hs'⟩ :=
    d.exists_root standardHandles (8 * d.text.length + 16) hfirst (by omega)
  have hfinished : isFinished s' d.text.length := by
    obtain ⟨n, hn⟩ : ∃ n, d.text.length = n + 1 := ⟨d.text.length - 1, by omega⟩
    exact hn ▸ d.isFinished_stop hs' n
  simp only [parse, hallowed, h]
  simp [d.directivesFrom_first hfirst, hroot, hfinished]

end Document

end CertRenewal.Yaml
