import CertRenewal.Proofs.Yaml.Leaf

/-!
# Reading documents in block style

Every document that is laid out in block style is read to the tree that it stands for
(`Document.parse_text`). Each part of a layout has a statement of what reading it comes to, whatever
gap follows it (`Content.IsRead`, `Items.IsRead`, `Entries.IsRead`, `Value.IsRead`); one lemma for
each constructor gives the statement of a part from those of its parts, and `Content.isRead` is the
induction over them. The fuel that a part takes is bounded by the length of its text.
-/

namespace CertRenewal.Yaml

/-! ## Cursors at spots -/

section

variable {s : Cursor} {x : Spot}

theorem Cursor.IsAt.isAhead_eq (h : s.IsAt x) (mark : Char) (hmark : x.rest.head? ≠ some mark) :
    s.isAhead mark = false := by
  cases hrest : x.rest with
  | nil => simp [Cursor.isAhead, h.rest_eq, hrest]
  | cons c rest => simp_all [Cursor.isAhead, h.rest_eq]

theorem Cursor.IsAt.isAmong_eq (h : s.IsAt x) {marks : List Char}
    (hmarks : ∀ c ∈ x.rest.head?, c ∉ marks) : s.isAmong marks = false := by
  cases hrest : x.rest with
  | nil => simp [Cursor.isAmong, h.rest_eq, hrest]
  | cons c rest => simp_all [Cursor.isAmong, h.rest_eq]

/-- A spot outside of a block is not inside of it. -/
theorem Cursor.IsAt.isInside_eq (h : s.IsAt x) (hhead : ∀ c ∈ x.rest.head?, startsToken c)
    {column : Nat} {dashes : Bool} (hx : x.Outside column dashes) :
    isInside column dashes s = false := by
  by_cases hend : x.atEnd
  · simp [isInside, h.atEnd_eq, hend]
  have hcolumn := h.column_eq hend
  have hmarks : s.isAmong ['|', '>'] = false := by
    refine h.isAmong_eq fun c hc hmem => absurd (hhead c hc) ?_
    revert hmem
    simp only [List.mem_cons, List.not_mem_nil, or_false]
    rintro (rfl | rfl) <;> decide
  rcases hx with (hatEnd | hbefore) | ⟨hsame, hdash⟩
  · exact absurd hatEnd hend
  · have hne : (column : Int) ≠ x.column := by omega
    simp [isInside, hcolumn, hne, Nat.le_of_lt hbefore]
  · cases dashes with
    | false => simp [isInside, hcolumn, hsame, hmarks]
    | true => simp [isInside, hcolumn, hsame, hmarks, h.isAhead_eq '-' (hdash rfl)]

end

/-! ## Single steps -/

section

variable {handles : Handles} {fuel : Nat} {dashes : Bool} {s : Cursor} {gap : List Char} {x : Spot}

/-- A leaf that ends its block is read. -/
theorem blockNode_leaf {parent : Nat} (leaf : Leaf) (hfuel : 3 ≤ fuel)
    (hrest : s.rest = leaf.text ++ gap) (h : Leads gap x) (hx : x.Before (parent + 1))
    (hcolumn : parent < s.place.column) :
    ∃ s', blockNode fuel handles parent dashes .empty s = some (leaf.node, s') ∧ s'.IsAt x := by
  obtain ⟨fuel, rfl⟩ := Nat.exists_eq_add_of_le' hfuel
  have hleaf : s.AtLeaf := .of_text leaf hrest
  have hinside : isInside parent dashes s = true := by
    simp [isInside, hleaf.atEnd_eq, hcolumn]
  have hkey := blockKey_leaf fuel handles leaf hrest (h.endsScalar (Nat.succ_pos parent) hx)
  have hat : ((s.skip leaf.text.length).nextToken false).IsAt x :=
    h.isAt (by simp [Cursor.skip, hrest]) rfl
  have hcolon := hat.isAhead_eq ':' fun hhead => absurd (h.head_rest _ hhead) (by decide)
  refine ⟨_, ?_, hat⟩
  rw [blockNode]
  simp [hinside, hleaf.isAhead_eq '-' rfl, hleaf.isAhead_eq '?' rfl,
    hleaf.properties_eq, hleaf.isAmong_eq ['|', '>'] rfl, hkey, hcolon]

variable {key : Key} {after : List Char}

/-- A key is read up to its colon. -/
theorem blockKey_key (indent : Nat) (hrest : s.rest = key.scalar.text ++ ':' :: after)
    (hafter : isBlankOrEnd after.head?) :
    blockKey (fuel + 2) handles indent s =
      some (key.scalar.node, s.skip key.scalar.text.length) := by
  have hcolon : (s.skip key.scalar.text.length).rest = ':' :: after := by
    simp [Cursor.skip, hrest]
  have hkey := blockKey_leaf fuel handles (.scalar key.scalar) hrest
    (endsScalar_colon hafter indent)
  rw [hkey, Leaf.node, Leaf.text, Cursor.nextToken_of_stopsWalk rfl false hcolon]

theorem isAhead_colon (hrest : s.rest = key.scalar.text ++ ':' :: after)
    (hafter : isBlankOrEnd after.head?) : (s.skip key.scalar.text.length).isAhead ':' := by
  simp [Cursor.isAhead, Cursor.skip, hrest, hafter]

/-- A key of the layout is short enough to be one. -/
theorem endsKeyFrom_key (hallowed : s.place.keyAllowed = true) :
    (s.skip key.scalar.text.length).endsKeyFrom s.place := by
  simpa [Cursor.endsKeyFrom, Cursor.skip, hallowed] using key.isShort

/-- In front of a key, the entries are the one of the key and those behind its value. -/
theorem blockEntries_key {column : Nat} (hrest : s.rest = key.scalar.text ++ ':' :: after)
    (hafter : isBlankOrEnd after.head?) (hcolumn : s.place.column = column)
    (hallowed : s.place.keyAllowed = true) :
    blockEntries (fuel + 3) handles column s = do
      let (value, s₁) ←
        blockValue (fuel + 2) handles column false (s.skip key.scalar.text.length)
      let (more, s₂) ← blockEntries (fuel + 2) handles column s₁
      return ((key.scalar.node, value) :: more, s₂) := by
  have hleaf : s.AtLeaf := .of_text (.scalar key.scalar) hrest
  have hkey : blockKey (fuel + 2) handles (column + 1) s = _ :=
    blockKey_key (column + 1) hrest hafter
  rw [blockEntries]
  simp [hleaf.atEnd_eq, hcolumn, hleaf.isAhead_eq '?' rfl, hkey,
    isAhead_colon hrest hafter, endsKeyFrom_key hallowed]

/-- In front of a key, a node is the mapping of the entries that begin there. -/
theorem blockNode_mapping {parent : Int} (hrest : s.rest = key.scalar.text ++ ':' :: after)
    (hafter : isBlankOrEnd after.head?) (hallowed : s.place.keyAllowed = true)
    (hcolumn : parent < s.place.column) :
    blockNode (fuel + 3) handles parent dashes .empty s = do
      let (entries, s) ← blockEntries (fuel + 3) handles s.place.column s
      return (.mapping none entries, s) := by
  have hleaf : s.AtLeaf := .of_text (.scalar key.scalar) hrest
  have hinside : isInside parent dashes s = true := by
    simp [isInside, hleaf.atEnd_eq, hcolumn]
  have hkey : blockKey (fuel + 2) handles (parent + 1).toNat s = _ :=
    blockKey_key (parent + 1).toNat hrest hafter
  have hline : (s.skip key.scalar.text.length).place.line = s.place.line := rfl
  rw [blockEntries_key hrest hafter rfl hallowed, blockNode]
  simp [hinside, hleaf.isAhead_eq '-' rfl, hleaf.isAhead_eq '?' rfl,
    hleaf.properties_eq, hleaf.isAmong_eq ['|', '>'] rfl, hkey, hline,
    isAhead_colon hrest hafter, endsKeyFrom_key hallowed, Option.bind_assoc]

/-- An entry is read by reading its value, and then the entries behind it. -/
theorem blockEntries_entry {column : Nat} {value : Node} {more : List (Node × Node)}
    {s₁ s₂ : Cursor} (hrest : s.rest = key.scalar.text ++ ':' :: after)
    (hafter : isBlankOrEnd after.head?) (hcolumn : s.place.column = column)
    (hallowed : s.place.keyAllowed = true)
    (hvalue : blockNode (fuel + 1) handles column true .empty
      (((s.skip key.scalar.text.length).advance false).nextToken false) = some (value, s₁))
    (hmore : blockEntries (fuel + 2) handles column s₁ = some (more, s₂)) :
    blockEntries (fuel + 3) handles column s =
      some ((key.scalar.node, value) :: more, s₂) := by
  rw [blockEntries_key hrest hafter hcolumn hallowed, blockValue, hvalue]
  simp [hmore]

/-- At a spot to the left no entry begins. -/
theorem blockEntries_end {column : Nat} (hs : s.IsAt x) (hx : x.Before column) :
    blockEntries (fuel + 1) handles column s = some ([], s) := by
  have hend : (s.atEnd || decide (s.place.column < column)) = true := by
    by_cases hatEnd : x.atEnd
    · rw [hs.atEnd_eq, hatEnd, Bool.true_or]
    · rw [hs.column_eq hatEnd, decide_eq_true (hx.resolve_left hatEnd), Bool.or_true]
  rw [blockEntries, if_pos hend]

/-- At a spot outside no item begins. -/
theorem blockItems_end {column : Nat} (hs : s.IsAt x) (hx : x.Outside column true) :
    blockItems (fuel + 1) handles column s = some ([], s) := by
  have hend : ¬ (!s.atEnd && s.isAhead '-' && s.place.column == column &&
      s.place.keyAllowed) = true := by
    by_cases hatEnd : x.atEnd
    · simp [hs.atEnd_eq, hatEnd]
    · rw [hs.column_eq hatEnd]
      rcases hx with hbefore | ⟨-, hdash⟩
      · simp [Nat.ne_of_lt (hbefore.resolve_left hatEnd)]
      · simp [hs.isAhead_eq '-' (hdash rfl)]
  rw [blockItems, if_neg hend]

/-- A dash that a blank follows is no mark of a document. -/
theorem atEnd_dash {rest : List Char} (hrest : s.rest = '-' :: ' ' :: rest) : s.atEnd = false := by
  have hmarker : isDocumentMarker ('-' :: ' ' :: rest) = false := by
    cases rest <;> rfl
  simp [Cursor.atEnd, hrest, hmarker]

theorem isAhead_dash {rest : List Char} (hrest : s.rest = '-' :: ' ' :: rest) :
    s.isAhead '-' = true := by
  simp [Cursor.isAhead, hrest, isBlankOrEnd, isBlank]

/-- An item is read behind its dash, and then the items that follow. -/
theorem blockItems_item {rest : List Char} {item : Node} {more : List Node} {s₁ s₂ : Cursor}
    {column : Nat} (hs : s.IsAt ⟨column, '-' :: ' ' :: rest⟩)
    (hitem : blockNode fuel handles column false .empty ((s.advance true).nextToken false) =
      some (item, s₁))
    (hmore : blockItems fuel handles column s₁ = some (more, s₂)) :
    blockItems (fuel + 1) handles column s = some (item :: more, s₂) := by
  obtain ⟨hrest, hcolumn, hallowed⟩ := hs.of_cons
  rw [blockItems]
  simp [atEnd_dash hrest, isAhead_dash hrest, hcolumn, hallowed, hitem, hmore]

/-- In front of a dash, a node is the sequence of the items that begin there, if it ends outside of
them. -/
theorem blockNode_sequence {rest : List Char} {items : List Node} {s' : Cursor}
    {parent column : Nat} (hs : s.IsAt ⟨column, '-' :: ' ' :: rest⟩)
    (hparent : parent < column ∨ parent = column ∧ dashes = true)
    (hitems : blockItems fuel handles column s = some (items, s')) (hs' : s'.IsAt x)
    (hx : x.Outside parent dashes) :
    blockNode (fuel + 1) handles parent dashes .empty s = some (.sequence none items, s') := by
  obtain ⟨hrest, hcolumn, hallowed⟩ := hs.of_cons
  have hinside : isInside parent dashes s = true := by
    rcases hparent with hdeeper | ⟨rfl, rfl⟩
    · simp [isInside, atEnd_dash hrest, hcolumn, hdeeper]
    · simp [isInside, atEnd_dash hrest, isAhead_dash hrest, hcolumn]
  have hend : parent = column ∨ s'.atEnd ∨ s'.place.column < column := by
    by_cases hatEnd : x.atEnd
    · exact .inr (.inl (by rw [hs'.atEnd_eq, hatEnd]))
    · rw [hs'.column_eq hatEnd]
      rcases hparent with hdeeper | ⟨rfl, -⟩
      · exact .inr (.inr ((hx.before hdeeper).resolve_left hatEnd))
      · exact .inl rfl
  rw [blockNode]
  simp only [hinside, isAhead_dash hrest, hcolumn, hallowed, hitems, Properties.slot_empty]
  simp only [Bool.not_true, Bool.false_eq_true, ↓reduceIte, Option.bind_eq_bind, Option.bind_some,
    Bool.or_eq_true, beq_iff_eq, decide_eq_true_eq, Int.ofNat_inj, or_assoc, if_pos hend]
  rfl

end

/-! ## How the parts of a layout begin -/

section

variable {gap : List Char}

theorem Lines.isBlankOrEnd_text (l : Lines) (s : List Char) :
    isBlankOrEnd (l.text ++ s).head? := by
  cases h : (l.text ++ s).head? with
  | none => rfl
  | some c => simpa [isBlankOrEnd] using Or.inl (l.head_text s c h)

/-- A value stands apart from the colon in front of it. -/
theorem Value.isBlankOrEnd_text (v : Value) (column : Nat) (hgap : isBlankOrEnd gap.head?) :
    isBlankOrEnd (v.text column ++ gap).head? := by
  cases v with
  | nothing => exact hgap
  | beside blank more leaf => simp [Value.text, isBlankOrEnd, blank.isBlank_char]
  | under lines deeper content =>
    rw [Value.text, List.append_assoc]
    exact lines.isBlankOrEnd_text _

/-- Entries begin with a key and a colon. -/
theorem Entries.exists_key (e : Entries) (column : Nat) (hgap : isBlankOrEnd gap.head?) :
    ∃ (key : Key) (after : List Char), e.text column ++ gap = key.scalar.text ++ ':' :: after ∧
      isBlankOrEnd after.head? := by
  cases e with
  | last key value =>
    exact ⟨key, _, by simp [Entries.text], value.isBlankOrEnd_text column hgap⟩
  | cons key value lines more =>
    have hlines : isBlankOrEnd
        (lines.text ++ (indentation column ++ (more.text column ++ gap))).head? :=
      lines.isBlankOrEnd_text _
    exact ⟨key, _, by simp [Entries.text], value.isBlankOrEnd_text column hlines⟩

theorem Entries.exists_text (e : Entries) (column : Nat) :
    ∃ c rest, e.text column = c :: rest ∧ startsLeaf c := by
  have hkey (key : Key) (after : List Char) :
      ∃ c rest, key.scalar.text ++ after = c :: rest ∧ startsLeaf c := by
    obtain ⟨c, rest, htext, hc⟩ := (Leaf.scalar key.scalar).exists_text
    exact ⟨c, rest ++ after, by rw [← Leaf.text, htext]; rfl, hc⟩
  cases e with
  | last key value => exact hkey key _
  | cons key value lines more => exact hkey key _

theorem Items.exists_text (i : Items) (column : Nat) :
    ∃ rest, i.text column = '-' :: ' ' :: rest := by
  cases i <;> exact ⟨_, rfl⟩

theorem startsToken_of_startsLeaf {c : Char} (h : startsLeaf c) : startsToken c :=
  (Bool.and_eq_true_iff.mp h).1

theorem Content.exists_text (content : Content) (column : Nat) :
    ∃ c rest, content.text column = c :: rest ∧ startsToken c := by
  cases content with
  | leaf leaf =>
    obtain ⟨c, rest, htext, hc⟩ := leaf.exists_text
    exact ⟨c, rest, htext, startsToken_of_startsLeaf hc⟩
  | sequence items =>
    obtain ⟨rest, htext⟩ := items.exists_text column
    exact ⟨'-', _, htext, rfl⟩
  | mapping entries =>
    obtain ⟨c, rest, htext, hc⟩ := entries.exists_text column
    exact ⟨c, rest, htext, startsToken_of_startsLeaf hc⟩

end

/-! ## What reading the parts of a layout comes to -/

/-- Whether content may begin in a column inside of a block. -/
def Content.FitsIn (content : Content) (parent : Nat) (dashes : Bool) (column : Nat) : Prop :=
  parent < column ∨ parent = column ∧ dashes = true ∧ ∃ items, content = .sequence items

/-- Only a sequence may begin in the column of the block around. -/
theorem Content.FitsIn.deeper {content : Content} {parent column : Nat} {dashes : Bool}
    (h : content.FitsIn parent dashes column) (hother : ∀ items, content ≠ .sequence items) :
    parent < column :=
  h.resolve_right fun hsame => hother hsame.2.2.choose hsame.2.2.choose_spec

/-- Content is read wherever it may begin. A leaf takes three levels of fuel, and four for every
character are more than the blocks around it take. -/
def Content.IsRead (content : Content) : Prop :=
  ∀ handles fuel {parent dashes column gap x} {s : Cursor}, Leads gap x →
    x.Outside parent dashes → content.FitsIn parent dashes column →
    4 * (content.text column).length + 3 ≤ fuel → s.IsAt ⟨column, content.text column ++ gap⟩ →
    ∃ s', blockNode fuel handles parent dashes .empty s = some (content.node, s') ∧ s'.IsAt x

/-- Items are read up to a gap that leads out of their sequence. -/
def Items.IsRead (items : Items) : Prop :=
  ∀ handles fuel {column gap x} {s : Cursor}, Leads gap x → x.Outside column true →
    4 * (items.text column).length + 2 ≤ fuel → s.IsAt ⟨column, items.text column ++ gap⟩ →
    ∃ s', blockItems fuel handles column s = some (items.nodes, s') ∧ s'.IsAt x

/-- Entries are read up to a gap that leads out of their mapping. -/
def Entries.IsRead (entries : Entries) : Prop :=
  ∀ handles fuel {column gap x} {s : Cursor}, Leads gap x → x.Before column →
    4 * (entries.text column).length + 3 ≤ fuel → s.IsAt ⟨column, entries.text column ++ gap⟩ →
    ∃ s', blockEntries fuel handles column s = some (entries.nodes, s') ∧ s'.IsAt x

/-- A value is read from behind the colon of its key. -/
def Value.IsRead (value : Value) : Prop :=
  ∀ handles fuel {column gap x} {s : Cursor}, Leads gap x → x.Outside column true →
    4 * (value.text column).length + 3 ≤ fuel → s.rest = value.text column ++ gap →
    column < s.place.column → s.place.keyAllowed = false →
    ∃ s', blockNode fuel handles column true .empty (s.nextToken false) = some (value.node, s') ∧
      s'.IsAt x

theorem isRead_leaf (leaf : Leaf) : (Content.leaf leaf).IsRead := by
  intro handles fuel parent dashes column gap x s hgap hx hfits hfuel hs
  have hdeeper : parent < column := hfits.deeper (by simp)
  obtain ⟨c, rest, htext, -⟩ := leaf.exists_text
  have hcolumn : s.place.column = column := (hs.place (by simp [Content.text, htext])).1
  exact blockNode_leaf leaf (Nat.le_of_add_left_le hfuel) hs.rest_eq hgap
    (hx.before (Nat.lt_succ_self parent)) (hcolumn ▸ hdeeper)

/-- A mapping is read when its entries are. -/
theorem isRead_mapping {entries : Entries} (h : entries.IsRead) :
    (Content.mapping entries).IsRead := by
  intro handles fuel parent dashes column gap x s hgap hx hfits hfuel hs
  have hdeeper : parent < column := hfits.deeper (by simp)
  obtain ⟨s', hentries, hs'⟩ := h handles fuel hgap (hx.before hdeeper) hfuel hs
  obtain ⟨key, after, htext, hafter⟩ := entries.exists_key column hgap.isBlankOrEnd_head
  obtain ⟨fuel, rfl⟩ := Nat.exists_eq_add_of_le' (Nat.le_of_add_left_le hfuel)
  obtain ⟨hcolumn, hallowed⟩ := hs.place (by simp [Content.text, htext])
  refine ⟨s', ?_, hs'⟩
  rw [blockNode_mapping (hs.rest_eq.trans htext) hafter hallowed
    (hcolumn ▸ Int.ofNat_lt.mpr hdeeper), hcolumn, hentries]
  rfl

/-- A sequence is read when its items are. -/
theorem isRead_sequence {items : Items} (h : items.IsRead) :
    (Content.sequence items).IsRead := by
  intro handles fuel parent dashes column gap x s hgap hx hfits hfuel hs
  have hparent : parent < column ∨ parent = column ∧ dashes = true :=
    hfits.imp_right fun h => ⟨h.1, h.2.1⟩
  have houtside : x.Outside column true := by
    rcases hparent with hdeeper | ⟨rfl, rfl⟩
    · exact .inl (hx.before hdeeper)
    · exact hx
  obtain ⟨fuel, rfl⟩ := Nat.exists_eq_add_of_le' (Nat.le_of_add_left_le hfuel)
  obtain ⟨s', hitems, hs'⟩ :=
    h handles (fuel + 2) hgap houtside (Nat.le_of_succ_le_succ hfuel) hs
  obtain ⟨rest, htext⟩ := items.exists_text column
  rw [Content.text, htext] at hs
  exact ⟨s', blockNode_sequence hs hparent hitems hs' hx, hs'⟩

theorem isRead_nothing : Value.nothing.IsRead := by
  intro handles fuel column gap x s hgap hx hfuel hrest hcolumn hallowed
  obtain ⟨fuel, rfl⟩ := Nat.exists_eq_add_of_le' (Nat.le_of_add_left_le hfuel)
  have hat := hgap.isAt hrest hallowed
  refine ⟨_, ?_, hat⟩
  rw [blockNode, hat.isInside_eq hgap.head_rest hx]
  rfl

theorem isRead_beside (blank : Blank) (more : List Blank) (leaf : Leaf) :
    (Value.beside blank more leaf).IsRead := by
  intro handles fuel column gap x s hgap hx hfuel hrest hcolumn hallowed
  have hblanks : s.rest = (blank :: more).map Blank.char ++ (leaf.text ++ gap) := by
    simp [hrest, Value.text]
  obtain ⟨c, rest, htext, hc⟩ := leaf.exists_text
  have hnext : s.nextToken false =
      { s with place := s.place.right (more.length + 1), rest := leaf.text ++ gap } := by
    rw [Cursor.nextToken, hblanks, walk_blanks hallowed, htext, List.cons_append,
      walk_of_stopsWalk (stopsWalk_of_startsToken (startsToken_of_startsLeaf hc))]
    rfl
  rw [hnext]
  exact blockNode_leaf leaf (Nat.le_of_add_left_le hfuel) rfl hgap
    (hx.before (Nat.lt_succ_self column)) (Nat.lt_add_right _ hcolumn)

theorem Content.fitsIn_columnUnder (content : Content) (column deeper : Nat) :
    content.FitsIn column true (content.columnUnder column deeper) := by
  cases content with
  | leaf leaf => exact .inl (by simp only [Content.columnUnder]; omega)
  | mapping entries => exact .inl (by simp only [Content.columnUnder]; omega)
  | sequence items =>
    rcases Nat.eq_zero_or_pos deeper with rfl | hpos
    · exact .inr ⟨rfl, rfl, items, rfl⟩
    · exact .inl (by simp [Content.columnUnder, hpos])

/-- A value on a line of its own is read when its content is. -/
theorem isRead_under (lines : Lines) (deeper : Nat) {content : Content} (h : content.IsRead) :
    (Value.under lines deeper content).IsRead := by
  intro handles fuel column gap x s hgap hx hfuel hrest hcolumn hallowed
  obtain ⟨c, rest, htext, hc⟩ := content.exists_text (content.columnUnder column deeper)
  have hat : (s.nextToken false).IsAt ⟨content.columnUnder column deeper,
      content.text (content.columnUnder column deeper) ++ gap⟩ := by
    refine (leads_lines lines _ ?_).isAt (by simp [hrest, Value.text]) hallowed
    simp [htext, hc]
  refine h handles fuel hgap hx (content.fitsIn_columnUnder column deeper) ?_ hat
  simp only [Value.text, List.length_append] at hfuel
  omega

/-- Behind the dash of an item stands its content. -/
theorem isAt_item {s : Cursor} {column spaces : Nat} {content : Content} {after : List Char}
    (hs : s.IsAt ⟨column, '-' :: ' ' ::
      (indentation spaces ++ (content.text (column + spaces + 2) ++ after))⟩) :
    ((s.advance true).nextToken false).IsAt
      ⟨column + spaces + 2, content.text (column + spaces + 2) ++ after⟩ := by
  obtain ⟨hrest, hcolumn, -⟩ := hs.of_cons
  obtain ⟨c, rest, htext, hc⟩ := content.exists_text (column + spaces + 2)
  have hinner : (s.advance true).rest =
      indentation (spaces + 1) ++ (content.text (column + spaces + 2) ++ after) := by
    simp [Cursor.advance, hrest, indentation, List.replicate_succ]
  have hwalk : walk false false (s.advance true).place (s.advance true).rest =
      ((s.advance true).place.right (spaces + 1), content.text (column + spaces + 2) ++ after) := by
    rw [hinner, walk_indentation, htext, List.cons_append,
      walk_of_stopsWalk (stopsWalk_of_startsToken hc)]
  rw [Cursor.nextToken, hwalk]
  refine ⟨rfl, fun _ => ⟨?_, rfl⟩⟩
  simp only [Cursor.advance, Place.right, Place.step, Place.withKey, hcolumn]
  omega

theorem fitsIn_item (content : Content) (column spaces : Nat) :
    content.FitsIn column false (column + spaces + 2) :=
  .inl (by omega)

theorem isRead_lastItem (spaces : Nat) {content : Content} (h : content.IsRead) :
    (Items.last spaces content).IsRead := by
  intro handles fuel column gap x s hgap hx hfuel hs
  simp only [Items.text, List.length_cons, List.length_append] at hfuel
  obtain ⟨fuel, rfl⟩ := Nat.exists_eq_add_of_le' (show 2 ≤ fuel by omega)
  simp only [Items.text, List.cons_append, List.append_assoc] at hs
  have houtside : x.Outside column false := hx.imp_right fun h => ⟨h.1, by simp⟩
  obtain ⟨s₁, hitem, hs₁⟩ := h handles (fuel + 1) hgap houtside
    (fitsIn_item content column spaces) (by omega) (isAt_item hs)
  exact ⟨s₁, blockItems_item hs hitem (blockItems_end hs₁ hx), hs₁⟩

/-- An item is read up to the dash of the next one. -/
theorem isRead_consItem (spaces : Nat) (lines : Lines) {content : Content} {more : Items}
    (h : content.IsRead) (hmore : more.IsRead) : (Items.cons spaces content lines more).IsRead := by
  intro handles fuel column gap x s hgap hx hfuel hs
  simp only [Items.text, List.length_cons, List.length_append] at hfuel
  obtain ⟨fuel, rfl⟩ := Nat.exists_eq_add_of_le' (show 1 ≤ fuel by omega)
  simp only [Items.text, List.cons_append, List.append_assoc] at hs
  obtain ⟨rest, htext⟩ := more.exists_text column
  have hlines := leads_lines lines column (s := more.text column ++ gap) (by simp [htext]; rfl)
  obtain ⟨s₁, hitem, hs₁⟩ := h handles fuel hlines (.inr ⟨rfl, by simp⟩)
    (fitsIn_item content column spaces) (by omega) (isAt_item hs)
  obtain ⟨s₂, hitems, hs₂⟩ := hmore handles fuel hgap hx (by omega) hs₁
  exact ⟨s₂, blockItems_item hs hitem hitems, hs₂⟩

/-- Reading an entry comes to reading its value and going on where that leads. -/
theorem exists_entry (handles : Handles) (fuel column : Nat) {s : Cursor} {x : Spot} {key : Key}
    {value : Value} {after : List Char} (h : value.IsRead) (hafter : Leads after x)
    (hx : x.Outside column true) (hfuel : 4 * (value.text column).length + 3 ≤ fuel + 1)
    (hs : s.IsAt ⟨column, key.scalar.text ++ ':' :: (value.text column ++ after)⟩) :
    ∃ s₁, s₁.IsAt x ∧ ∀ {more s₂}, blockEntries (fuel + 2) handles column s₁ = some (more, s₂) →
      blockEntries (fuel + 3) handles column s =
        some ((key.scalar.node, value.node) :: more, s₂) := by
  obtain ⟨hcolumn, hallowed⟩ := hs.place (by simp)
  have hrest : ((s.skip key.scalar.text.length).advance false).rest =
      value.text column ++ after := by
    simp [Cursor.advance, Cursor.skip, hs.rest_eq]
  have hright : column < ((s.skip key.scalar.text.length).advance false).place.column := by
    simp only [Cursor.advance, Cursor.skip, Place.step, Place.withKey, hcolumn]
    omega
  obtain ⟨s₁, hvalue, hs₁⟩ := h handles (fuel + 1) hafter hx hfuel hrest hright rfl
  exact ⟨s₁, hs₁, blockEntries_entry hs.rest_eq
    (value.isBlankOrEnd_text column hafter.isBlankOrEnd_head) hcolumn hallowed hvalue⟩

theorem isRead_lastEntry (key : Key) {value : Value} (h : value.IsRead) :
    (Entries.last key value).IsRead := by
  intro handles fuel column gap x s hgap hx hfuel hs
  simp only [Entries.text, List.length_cons, List.length_append] at hfuel
  obtain ⟨fuel, rfl⟩ := Nat.exists_eq_add_of_le' (show 3 ≤ fuel by omega)
  simp only [Entries.text, List.cons_append, List.append_assoc] at hs
  obtain ⟨s₁, hs₁, hentry⟩ := exists_entry handles fuel column h hgap (.inl hx) (by omega) hs
  exact ⟨s₁, hentry (blockEntries_end hs₁ hx), hs₁⟩

/-- An entry is read up to the key of the next one. -/
theorem isRead_consEntry (key : Key) (lines : Lines) {value : Value} {more : Entries}
    (h : value.IsRead) (hmore : more.IsRead) : (Entries.cons key value lines more).IsRead := by
  intro handles fuel column gap x s hgap hx hfuel hs
  simp only [Entries.text, List.length_cons, List.length_append] at hfuel
  obtain ⟨fuel, rfl⟩ := Nat.exists_eq_add_of_le' (show 3 ≤ fuel by omega)
  simp only [Entries.text, List.cons_append, List.append_assoc] at hs
  obtain ⟨c, rest, htext, hc⟩ := more.exists_text column
  have hlines := leads_lines lines column (s := more.text column ++ gap)
    (by simp [htext, startsToken_of_startsLeaf hc])
  have hdash : (more.text column ++ gap).head? ≠ some '-' := by
    simp [htext]
    rintro rfl
    exact absurd hc (by decide)
  obtain ⟨s₁, hs₁, hentry⟩ := exists_entry handles fuel column h hlines
    (.inr ⟨rfl, fun _ => hdash⟩) (by omega) hs
  obtain ⟨s₂, hentries, hs₂⟩ := hmore handles (fuel + 2) hgap hx (by omega) hs₁
  exact ⟨s₂, hentry hentries, hs₂⟩

-- the induction is on the layout, with a lemma above for every constructor
mutual

/-- All content is read. The induction is on the layout, over all four of its types at once. -/
theorem Content.isRead : ∀ content : Content, content.IsRead
  | .leaf leaf => isRead_leaf leaf
  | .sequence items => isRead_sequence items.isRead
  | .mapping entries => isRead_mapping entries.isRead

theorem Items.isRead : ∀ items : Items, items.IsRead
  | .last spaces content => isRead_lastItem spaces content.isRead
  | .cons spaces content lines more => isRead_consItem spaces lines content.isRead more.isRead

theorem Entries.isRead : ∀ entries : Entries, entries.IsRead
  | .last key value => isRead_lastEntry key value.isRead
  | .cons key value lines more => isRead_consEntry key lines value.isRead more.isRead

theorem Value.isRead : ∀ value : Value, value.IsRead
  | .nothing => isRead_nothing
  | .beside blank more leaf => isRead_beside blank more leaf
  | .under lines deeper content => isRead_under lines deeper content.isRead

end

end CertRenewal.Yaml
