import CertRenewal.Proofs.Yaml.Layout

/-!
# Between the tokens of a document

What stands between two tokens leads from anywhere behind the one to the other: `Leads gap x` says
so of the text of a gap and the spot `x` of the next token. The gaps of a layout do (`leads_lines`,
`leads_ending`). A plain scalar takes blanks and line breaks for its own until it comes to a token
that stands too far to the left; `plainFrom_gap` says that this makes no difference to where the
walk ends.
-/

namespace CertRenewal.Yaml

/-- The characters that no gap goes on with. -/
def stopsWalk (c : Char) : Bool := !isBlank c && !isBreak c && !(['#', '\ufeff'].contains c)

/-- The characters that a token of a layout may start with. -/
def startsToken (c : Char) : Bool := stopsWalk c && !([':', '|', '>'].contains c)

/-! ## Walking over the gaps of a layout -/

def Place.right (n : Nat) (p : Place) : Place := { p with column := p.column + n }

theorem Place.right_step (n : Nat) (p : Place) : p.step.right n = p.right (n + 1) := by
  simp only [Place.step, Place.right, Nat.add_right_comm, Nat.add_assoc]

/-- The walk stops where neither a gap nor a comment goes on. A byte order mark may start a line. -/
theorem walk_stop {c : Char} {p : Place} (flow : Bool) (hblank : isBlank c = false)
    (hbreak : isBreak c = false) (hcomment : c ≠ '#') (hmark : c = '\ufeff' → p.column ≠ 0)
    (s : List Char) : walk flow false p (c :: s) = (p, c :: s) := by
  simp only [isBlank, Bool.or_eq_false_iff, decide_eq_false_iff_not] at hblank
  simp only [walk, hbreak, hblank, hcomment, Bool.false_eq_true, decide_false, Bool.false_and,
    ↓reduceIte]
  rw [if_neg]
  simpa using hmark

theorem walk_of_stopsWalk {c : Char} (h : stopsWalk c) (flow : Bool) (p : Place) (s : List Char) :
    walk flow false p (c :: s) = (p, c :: s) := by
  obtain ⟨⟨hblank, hbreak⟩, hother⟩ : (isBlank c = false ∧ isBreak c = false) ∧
      c ∉ ['#', '\ufeff'] := by
    simpa [stopsWalk] using h
  refine walk_stop flow hblank hbreak ?_ ?_ s
  · rintro rfl
    exact hother (by decide)
  · rintro rfl
    exact absurd (by decide) hother

theorem stopsWalk_of_startsToken {c : Char} (h : startsToken c) : stopsWalk c :=
  (Bool.and_eq_true_iff.mp h).1

theorem Cursor.nextToken_of_stopsWalk {c : Char} (h : stopsWalk c) (flow : Bool) {s : Cursor}
    {rest : List Char} (hrest : s.rest = c :: rest) : s.nextToken flow = s := by
  rw [Cursor.nextToken, hrest, walk_of_stopsWalk h, ← hrest]

/-- Tabs are passed where no key may begin. -/
theorem walk_blanks {p : Place} (h : p.keyAllowed = false) (blanks : List Blank) (s : List Char) :
    walk false false p (blanks.map Blank.char ++ s) =
      walk false false (p.right blanks.length) s := by
  induction blanks generalizing p with
  | nil => rfl
  | cons b blanks ih =>
    rw [List.length_cons, ← Place.right_step, ← ih (p := p.step) h]
    cases b <;> simp [walk, Blank.char, isBreak, h]

/-- Blanks move the place to the right. -/
theorem walk_indentation (n : Nat) (p : Place) (s : List Char) :
    walk false false p (indentation n ++ s) = walk false false (p.right n) s := by
  induction n generalizing p with
  | zero => rfl
  | succ n ih =>
    rw [← Place.right_step, ← ih]
    simp [indentation, List.replicate_succ, walk, isBreak]

/-- A comment ends with its line. -/
theorem walk_comment (comment : Comment) (p : Place) (s : List Char) :
    walk false true p (comment.text ++ '\n' :: s) =
      walk false false ⟨p.line + 1, 0, true⟩ s := by
  obtain ⟨text, hline⟩ := comment
  induction text generalizing p with
  | nil => simp [walk, isBreak, Place.nextLine, Place.withKey]
  | cons c text ih =>
    simp only [List.all_cons, Bool.and_eq_true, Bool.not_eq_true'] at hline
    rw [List.cons_append, walk, if_neg (by simp [hline.1.2]), if_pos rfl]
    exact ih (p := p.step) hline.2

/-- A comment ends with its line. -/
theorem walk_commentText (comment : Option Comment) (p : Place) (s : List Char) :
    walk false false p (commentText comment ++ '\n' :: s) =
      walk false false ⟨p.line + 1, 0, true⟩ s := by
  cases comment with
  | none => simp [commentText, walk, isBreak, Place.nextLine, Place.withKey]
  | some comment =>
    have hmark := walk_comment comment p.step s
    simpa [commentText, walk, isBreak, Place.step] using hmark

/-- A comment may be the last of the text. -/
theorem exists_walk_commentText (comment : Option Comment) (p : Place) :
    ∃ q, walk false false p (commentText comment) = (q, []) := by
  have hcomment (text : List Char) (h : text.all fun c => isAllowed c && !isBreak c) (p : Place) :
      ∃ q, walk false true p text = (q, []) := by
    induction text generalizing p with
    | nil => exact ⟨p, rfl⟩
    | cons c text ih =>
      simp only [List.all_cons, Bool.and_eq_true, Bool.not_eq_true'] at h
      rw [walk, if_neg (by simp [h.1.2]), if_pos rfl]
      exact ih h.2 p.step
  cases comment with
  | none => exact ⟨p, rfl⟩
  | some comment =>
    obtain ⟨q, hq⟩ := hcomment comment.text comment.isLine p.step
    exact ⟨q, by simpa [commentText, walk, isBreak] using hq⟩

theorem blankText_cons (l : BlankLine) (lines : List BlankLine) :
    blankText (l :: lines) =
      indentation l.indent ++ (commentText l.comment ++ '\n' :: blankText lines) := by
  simp [blankText, BlankLine.text]

/-- Lines without a token are passed over. -/
theorem walk_blankText (lines : List BlankLine) (line : Nat) (s : List Char) :
    ∃ line', walk false false ⟨line, 0, true⟩ (blankText lines ++ s) =
      walk false false ⟨line', 0, true⟩ s := by
  induction lines generalizing line with
  | nil => exact ⟨line, rfl⟩
  | cons l lines ih =>
    obtain ⟨line', hlines⟩ := ih (line + 1)
    refine ⟨line', ?_⟩
    simp only [blankText_cons, List.append_assoc, List.cons_append]
    rw [walk_indentation, walk_commentText]
    exact hlines

/-- Behind a token the walk comes to the start of a later line. -/
theorem walk_lines (l : Lines) {p : Place} (h : p.keyAllowed = false) (s : List Char) :
    ∃ line, walk false false p (l.text ++ s) = walk false false ⟨line, 0, true⟩ s := by
  obtain ⟨line, hlines⟩ := walk_blankText l.blank (p.line + 1) s
  refine ⟨line, ?_⟩
  simp only [Lines.text, Trail.text, List.append_assoc, List.cons_append]
  rw [walk_blanks h, walk_commentText]
  exact hlines

/-! ## Spots -/

/-- Where a token or the end of the text stands. -/
structure Spot where
  column : Nat
  rest : List Char

namespace Spot

def atEnd (x : Spot) : Bool := x.rest.isEmpty || (x.column == 0 && isDocumentMarker x.rest)

/-- A spot where blocks end that stand in a column. -/
def Before (column : Nat) (x : Spot) : Prop := x.atEnd ∨ x.column < column

/-- A spot outside of the values of the keys in a column, or, without `dashes`, of the items whose
dashes stand there. -/
def Outside (column : Nat) (dashes : Bool) (x : Spot) : Prop :=
  x.Before column ∨ x.column = column ∧ (dashes → x.rest.head? ≠ some '-')

theorem Before.mono {x : Spot} {m n : Nat} (h : x.Before m) (hmn : m ≤ n) : x.Before n :=
  h.imp_right fun hcolumn => Nat.lt_of_lt_of_le hcolumn hmn

theorem Outside.before {x : Spot} {m n : Nat} {dashes : Bool} (h : x.Outside m dashes)
    (hmn : m < n) : x.Before n :=
  h.elim (fun hbefore => hbefore.mono (Nat.le_of_lt hmn)) fun hcolumn => .inr (hcolumn.1 ▸ hmn)

end Spot

/-- The cursor stands at a spot, where a key may begin. -/
structure Cursor.IsAt (s : Cursor) (x : Spot) : Prop where
  rest_eq : s.rest = x.rest
  place : x.rest ≠ [] → s.place.column = x.column ∧ s.place.keyAllowed = true

theorem Cursor.IsAt.atEnd_eq {s : Cursor} {x : Spot} (h : s.IsAt x) : s.atEnd = x.atEnd := by
  by_cases hrest : x.rest = []
  · simp [Cursor.atEnd, Spot.atEnd, h.rest_eq, hrest]
  · rw [Cursor.atEnd, Spot.atEnd, h.rest_eq, (h.place hrest).1]

/-- A cursor that is not at the end stands in the column of its spot. -/
theorem Cursor.IsAt.column_eq {s : Cursor} {x : Spot} (h : s.IsAt x) (hend : ¬ x.atEnd) :
    s.place.column = x.column :=
  (h.place fun hrest => hend (by simp [Spot.atEnd, hrest])).1

theorem Cursor.IsAt.of_cons {s : Cursor} {column : Nat} {c : Char} {rest : List Char}
    (h : s.IsAt ⟨column, c :: rest⟩) :
    s.rest = c :: rest ∧ s.place.column = column ∧ s.place.keyAllowed = true :=
  ⟨h.rest_eq, h.place (List.cons_ne_nil _ _)⟩

/-- From anywhere behind a token the gap leads to a spot. -/
structure Leads (gap : List Char) (x : Spot) : Prop where
  exists_walk : ∀ p : Place, p.keyAllowed = false → ∃ q, walk false false p gap = (q, x.rest) ∧
    (x.rest ≠ [] → q.column = x.column ∧ q.keyAllowed = true)
  head_gap : ∀ c ∈ gap.head?, isBlank c ∨ isBreak c
  head_rest : ∀ c ∈ x.rest.head?, startsToken c

theorem Leads.isBlankOrEnd_head {gap : List Char} {x : Spot} (h : Leads gap x) :
    isBlankOrEnd gap.head? := by
  cases hgap : gap.head? with
  | none => rfl
  | some c => simpa [isBlankOrEnd] using Or.inl (h.head_gap c hgap)

/-- Behind a gap the next token stands where the gap leads. -/
theorem Leads.isAt {gap : List Char} {x : Spot} (h : Leads gap x) {s : Cursor}
    (hrest : s.rest = gap) (hkey : s.place.keyAllowed = false) : (s.nextToken false).IsAt x := by
  obtain ⟨q, hwalk, hq⟩ := h.exists_walk s.place hkey
  rw [Cursor.nextToken, hrest, hwalk]
  exact ⟨rfl, hq⟩

theorem Blank.isBlank_char (b : Blank) : isBlank b.char := by
  cases b <;> rfl

/-- The first character behind a token parts it from what follows. -/
theorem Trail.head_text (t : Trail) {s : List Char} (hs : ∀ c ∈ s.head?, isBlank c ∨ isBreak c) :
    ∀ c ∈ (t.text ++ s).head?, isBlank c ∨ isBreak c := by
  obtain ⟨blanks, comment, hapart⟩ := t
  cases blanks with
  | nil =>
    cases comment with
    | none => simpa [Trail.text, commentText] using hs
    | some comment => exact absurd rfl (hapart rfl)
  | cons b blanks => simpa [Trail.text] using .inl b.isBlank_char

theorem Lines.head_text (l : Lines) (s : List Char) :
    ∀ c ∈ (l.text ++ s).head?, isBlank c ∨ isBreak c := by
  rw [Lines.text, List.append_assoc]
  exact l.trail.head_text (by simp [isBreak])

/-- Lines lead to the token that is indented behind them. -/
theorem leads_lines (l : Lines) (column : Nat) {s : List Char}
    (h : ∀ c ∈ s.head?, startsToken c) :
    Leads (l.text ++ (indentation column ++ s)) ⟨column, s⟩ where
  exists_walk p hp := by
    obtain ⟨line, hlines⟩ := walk_lines l hp (indentation column ++ s)
    refine ⟨⟨line, column, true⟩, ?_, fun _ => ⟨rfl, rfl⟩⟩
    rw [hlines, walk_indentation, Place.right, Nat.zero_add]
    cases s with
    | nil => rfl
    | cons c s => exact walk_of_stopsWalk (stopsWalk_of_startsToken (h c rfl)) false _ s
  head_gap := l.head_text _
  head_rest := h

/-- An ending leads to the end of the text. -/
theorem leads_ending (e : Ending) : Leads e.text ⟨0, []⟩ where
  exists_walk p hp := by
    suffices h : ∃ q, walk false false p e.text = (q, []) from
      h.imp fun q hq => ⟨hq, fun hne => absurd rfl hne⟩
    cases e with
    | inLine trail =>
      rw [Ending.text, Trail.text, walk_blanks hp]
      exact exists_walk_commentText _ _
    | later lines last =>
      obtain ⟨line, hlines⟩ := walk_lines lines hp last.text
      rw [Ending.text, hlines, BlankLine.text, walk_indentation]
      exact exists_walk_commentText _ _
  head_gap := by
    cases e with
    | inLine trail => simpa [Ending.text] using trail.head_text (s := []) (by simp)
    | later lines last => exact lines.head_text _
  head_rest := by simp

/-! ## Plain scalars in front of a gap -/

section

variable {c : Char} {between : Gap} {p q : Place} {indent : Nat} {rest : List Char}

theorem Gap.addBlank_ne_none (c : Char) (between : Gap) : between.addBlank c ≠ .none := by
  cases between <;> exact Gap.noConfusion

theorem Gap.addBreak_ne_none (c : Char) (between : Gap) : between.addBreak c ≠ .none := by
  cases between <;> exact Gap.noConfusion

/-- Where the walk passes over a blank, the gap of a plain scalar grows by it. -/
theorem walk_addBlank (hblank : isBlank c) (htab : ¬ (between.isBroken ∧ c = '\t'))
    (s : List Char) :
    walk false false (p.withKey between.isBroken) (c :: s) =
      walk false false (p.step.withKey (between.addBlank c).isBroken) s := by
  have hbroken : (between.addBlank c).isBroken = between.isBroken := by cases between <;> rfl
  have hbreak : isBreak c = false := by
    rcases Bool.or_eq_true_iff.mp hblank with h | h <;> rw [of_decide_eq_true h] <;> rfl
  have hpass : c = ' ' ∨ c = '\t' ∧ between.isBroken = false := by
    rcases Bool.or_eq_true_iff.mp hblank with h | h
    · exact .inl (of_decide_eq_true h)
    · exact .inr ⟨of_decide_eq_true h, by simpa [of_decide_eq_true h] using htab⟩
  rw [hbroken, walk, if_neg (by simp [hbreak]), if_neg (by simp), if_pos]
  · rfl
  · simpa [Place.withKey, or_assoc] using Or.imp_right Or.inl hpass

/-- Where the walk passes over a line break, the gap of a plain scalar grows by it. -/
theorem walk_addBreak (hbreak : isBreak c) (s : List Char) :
    walk false false (p.withKey between.isBroken) (c :: s) =
      walk false false (p.nextLine.withKey (between.addBreak c).isBroken) s := by
  have hbroken : (between.addBreak c).isBroken = true := by cases between <;> rfl
  rw [hbroken, walk, if_pos hbreak]
  rfl

/-- Behind a gap a plain scalar ends where the walk stops too far to the left, and before that where
a comment or a byte order mark begins. -/
theorem endsPlain_of_walk (hindent : 0 < indent) (hbetween : between ≠ .none)
    (hblank : isBlank c = false) (hbreak : isBreak c = false) {s : List Char}
    (hwalk : walk false false (p.withKey between.isBroken) (c :: s) = (q, rest))
    (hq : rest = [] ∨ q.column < indent ∨ q.column = 0 ∧ isDocumentMarker rest) :
    endsPlain false indent between p c s := by
  suffices h : p.column < indent ∨ p.column = 0 ∧ isDocumentMarker (c :: s) ∨ c = '#' by
    simpa [endsPlain, hbetween, or_assoc] using Or.inl h
  by_cases hcomment : c = '#'
  · exact .inr (.inr hcomment)
  by_cases hmark : c = '\ufeff' ∧ p.column = 0
  · exact .inl (hmark.2 ▸ hindent)
  have hstop := walk_stop (p := p.withKey between.isBroken) false hblank hbreak hcomment
    (fun h₁ h₂ => hmark ⟨h₁, h₂⟩) s
  obtain ⟨rfl, rfl⟩ := Prod.mk.inj (hstop.symm.trans hwalk)
  exact (hq.resolve_left (List.cons_ne_nil _ _)).imp_right .inl

/-- A plain scalar takes a gap for its own up to a comment or a token that stands too far to the
left. What it leaves is walked over to the same place. -/
theorem plainFrom_gap (hindent : 0 < indent) {text : List Char}
    (hhead : ∀ c ∈ rest.head?, startsToken c)
    (hq : rest = [] ∨ q.column < indent ∨ q.column = 0 ∧ isDocumentMarker rest) (s : List Char)
    (between : Gap) (p : Place)
    (hs : between = .none → ∀ c ∈ s.head?, isBlank c ∨ isBreak c)
    (hwalk : walk false false (p.withKey between.isBroken) s = (q, rest)) :
    ∃ place left, plainFrom false indent text between p s = some ⟨text.reverse, place, left⟩ ∧
      walk false false place left = (q, rest) := by
  -- as long as it goes on, the scalar is where the walk is: `between` tells whether a line has ended
  induction s generalizing between p with
  | nil => exact ⟨_, _, rfl, hwalk⟩
  | cons c s ih =>
    rw [plainFrom]
    by_cases hblank : isBlank c
    · -- a tab at the start of a line would end the walk, and no token starts with one
      have htab : ¬ (between.isBroken ∧ c = '\t') := by
        rintro ⟨hbroken, rfl⟩
        have hstop : (p.withKey true, '\t' :: s) = (q, rest) := by
          simpa [walk, isBreak, Place.withKey, hbroken] using hwalk
        have htoken := hhead '\t' (by simp [← (Prod.mk.inj hstop).2])
        exact absurd htoken (by decide)
      rw [if_pos hblank, if_neg (by simpa using fun h₁ h₂ => absurd ⟨h₁, h₂⟩ htab)]
      exact ih _ _ (fun h => absurd h (Gap.addBlank_ne_none c between))
        ((walk_addBlank hblank htab s).symm.trans hwalk)
    rw [if_neg hblank]
    by_cases hbreak : isBreak c
    · rw [if_pos hbreak]
      exact ih _ _ (fun h => absurd h (Gap.addBreak_ne_none c between))
        ((walk_addBreak hbreak s).symm.trans hwalk)
    have hbetween : between ≠ .none := fun h => (hs h c rfl).elim hblank hbreak
    have hends := endsPlain_of_walk hindent hbetween (by simpa using hblank)
      (by simpa using hbreak) hwalk hq
    rw [if_neg hbreak, if_pos hends]
    exact ⟨_, _, rfl, hwalk⟩

end

end CertRenewal.Yaml
