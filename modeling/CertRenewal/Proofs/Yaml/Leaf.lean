import CertRenewal.Proofs.Yaml.Gap

/-!
# Reading leaves and keys

A leaf is read to what it stands for, and leaves the cursor where the next token stands
(`blockKey_leaf`). What may follow is given by `EndsScalar`: the colon of a key, or a gap that leads
out of the block (`endsScalar_colon`, `Leads.endsScalar`).
-/

namespace CertRenewal.Yaml

/-! ## What ends a scalar -/

/-- A text that ends a scalar whose further lines would be indented by `indent`. What a plain scalar
leaves of it is walked over as the whole. -/
structure EndsScalar (indent : Nat) (s : List Char) : Prop where
  exists_plain : ∀ (p : Place) (text : List Char), ∃ place left,
    plainFrom false indent text .none p s = some ⟨text.reverse, place, left⟩ ∧
      walk false false place left = walk false false (p.withKey false) s
  head_ne : s.head? ≠ some '\x27'

/-- A colon ends a scalar in front of a blank and at the end. -/
theorem endsScalar_colon {s : List Char} (h : isBlankOrEnd s.head?) (indent : Nat) :
    EndsScalar indent (':' :: s) where
  exists_plain p text := by
    refine ⟨p.withKey false, ':' :: s, ?_, rfl⟩
    rw [plainFrom, if_neg (by decide), if_neg (by decide), if_pos (by simp [endsPlain, h])]
    rfl
  head_ne := by simp

/-- A gap that leads out of a block ends the scalar in it. -/
theorem Leads.endsScalar {gap : List Char} {x : Spot} (h : Leads gap x) {indent : Nat}
    (hindent : 0 < indent) (hx : x.Before indent) : EndsScalar indent gap where
  exists_plain p text := by
    obtain ⟨q, hwalk, hq⟩ := h.exists_walk (p.withKey false) rfl
    have hstop : x.rest = [] ∨ q.column < indent ∨ q.column = 0 ∧ isDocumentMarker x.rest := by
      by_cases hrest : x.rest = []
      · exact .inl hrest
      · rw [(hq hrest).1]
        exact .inr (hx.symm.imp_right fun hend => by simpa [Spot.atEnd, hrest] using hend)
    obtain ⟨place, left, hplain, hleft⟩ :=
      plainFrom_gap hindent h.head_rest hstop gap .none p (fun _ => h.head_gap) hwalk
    exact ⟨place, left, hplain, hleft.trans hwalk.symm⟩
  head_ne hhead := by
    have := h.head_gap _ hhead
    revert this
    decide

/-! ## Scalars -/

theorem Word.exists_text (w : Word) : ∃ c rest, w.text = c :: rest ∧ c ∉ '.' :: indicators := by
  obtain ⟨text, hword⟩ := w
  cases text with
  | nil => exact absurd hword (by decide)
  | cons c rest =>
    simp only [isWord, Bool.and_eq_true, Bool.not_eq_true'] at hword
    exact ⟨c, rest, rfl, fun hmem => by simp [hmem] at hword⟩

theorem Word.isWordChar_of_mem (w : Word) {c : Char} (hc : c ∈ w.text) : isWordChar c := by
  obtain ⟨text, hword⟩ := w
  cases text with
  | nil => exact absurd hc List.not_mem_nil
  | cons d rest =>
    simp only [isWord, Bool.and_eq_true] at hword
    exact List.all_eq_true.mp hword.1.1 c hc

theorem Word.getLast?_ne (w : Word) : w.text.getLast? ≠ some ':' := by
  obtain ⟨text, hword⟩ := w
  cases text with
  | nil => simp
  | cons c rest =>
    simp only [isWord, Bool.and_eq_true, bne_iff_ne] at hword
    exact hword.2

/-- What a character of a word is not. -/
theorem isWordChar_iff {c : Char} : isWordChar c ↔
    isAllowed c ∧ isBlank c = false ∧ isBreak c = false ∧ c ∉ ['\x22', '\x27', '\\', '\ufeff'] := by
  simp [isWordChar, and_assoc]

theorem isBlankOrEnd_wordChar {c : Char} (h : isWordChar c) : isBlankOrEnd (some c) = false := by
  obtain ⟨hallowed, hblank, hbreak, -⟩ := isWordChar_iff.mp h
  have hnull : c ≠ '\x00' := by
    rintro rfl
    exact absurd hallowed (by decide)
  simp [isBlankOrEnd, hblank, hbreak, hnull]

/-- A word is read on as part of a plain scalar. -/
theorem plainFrom_word (indent : Nat) {word : List Char} (hword : ∀ c ∈ word, isWordChar c)
    (hlast : word.getLast? ≠ some ':') (text : List Char) (p : Place) (s : List Char) :
    plainFrom false indent text .none p (word ++ s) =
      plainFrom false indent (word.reverse ++ text) .none (p.right word.length) s := by
  induction word generalizing text p with
  | nil => rfl
  | cons c word ih =>
    obtain ⟨hc, hword⟩ := List.forall_mem_cons.mp hword
    obtain ⟨-, hblank, hbreak, -⟩ := isWordChar_iff.mp hc
    have hends : endsPlain false indent .none p c (word ++ s) = false := by
      cases word with
      | nil => simpa [endsPlain] using fun h => absurd h (by simpa using hlast)
      | cons d word =>
        have hd := isBlankOrEnd_wordChar (hword d List.mem_cons_self)
        simp [endsPlain, hd]
    have hlast' : word.getLast? ≠ some ':' := by
      cases word with
      | nil => simp
      | cons d word => simpa using hlast
    rw [List.cons_append, plainFrom, if_neg (by simp [hblank]), if_neg (by simp [hbreak]),
      if_neg (by simp [hends]), if_neg (by simp), Gap.folded, List.nil_append, ih hword hlast',
      Place.right_step, List.reverse_cons, List.append_assoc]
    rfl

/-- A word is read on as part of a quoted scalar. -/
theorem quotedFrom_word (double : Bool) {word : List Char} (hword : ∀ c ∈ word, isWordChar c)
    (text : List Char) {p : Place} (hp : 0 < p.column) (s : List Char) :
    quotedFrom double text (.text .none) p (word ++ s) =
      quotedFrom double (word.reverse ++ text) (.text .none) (p.right word.length) s := by
  induction word generalizing text p with
  | nil => rfl
  | cons c word ih =>
    obtain ⟨hc, hword⟩ := List.forall_mem_cons.mp hword
    obtain ⟨-, hblank, hbreak, hother⟩ := isWordChar_iff.mp hc
    have hstep : quotedFrom double text (.text .none) p (c :: (word ++ s)) =
        quotedFrom double (c :: text) (.text .none) p.step (word ++ s) := by
      simp only [List.mem_cons, not_or] at hother
      rw [quotedFrom]
      simp [hblank, hbreak, hother, Gap.folded, Nat.ne_of_gt hp]
    rw [List.cons_append, hstep, ih hword (c :: text) (p := p.step) (Nat.succ_pos _),
      Place.right_step, List.reverse_cons, List.append_assoc]
    rfl

/-- The closing quote. Behind a single one no other one may follow. -/
theorem quotedFrom_mark (double : Bool) (text : List Char) {p : Place} (hp : 0 < p.column)
    {after : List Char} (hafter : after.head? ≠ some '\x27') :
    quotedFrom double text (.text .none) p ((if double then '\x22' else '\x27') :: after) =
      some ⟨text.reverse, p.step.withKey false, after⟩ := by
  cases double with
  | true =>
    rw [quotedFrom]
    simp [isBlank, isBreak, Gap.folded, Nat.ne_of_gt hp]
  | false =>
    have hquote : quotedFrom false text .quote p.step after =
        some ⟨text.reverse, p.step.withKey false, after⟩ := by
      cases after with
      | nil => rfl
      | cons c after => rw [quotedFrom, if_neg (by simpa using hafter)]
    rw [quotedFrom]
    simp [isBlank, isBreak, Gap.folded, Nat.ne_of_gt hp, hquote]

/-- A cursor that has passed over as much as a reader left behind. -/
theorem Cursor.nextToken_behind {s : Cursor} {r : Scanned} {n : Nat} {after : List Char}
    (hafter : s.rest.drop n = after)
    (hwalk : walk false false r.place r.rest =
      walk false false ((s.place.right n).withKey false) after) :
    (s.behind r).nextToken false = (s.skip n).nextToken false := by
  have hplace : (s.skip n).place = (s.place.right n).withKey false := rfl
  simp only [Cursor.nextToken, Cursor.behind, hplace]
  rw [show (s.skip n).rest = after from hafter, hwalk]
  rfl

section

variable {indent : Nat} {s : Cursor} {after : List Char}

theorem plainText_word (w : Word) (hrest : s.rest = w.text ++ after)
    (h : EndsScalar indent after) :
    ∃ s', plainText false indent s = some (w.text, s') ∧
      s'.nextToken false = (s.skip w.text.length).nextToken false := by
  obtain ⟨place, left, hplain, hwalk⟩ :=
    h.exists_plain (s.place.right w.text.length) (w.text.reverse ++ [])
  refine ⟨s.behind ⟨w.text, place, left⟩, ?_, Cursor.nextToken_behind ?_ hwalk⟩
  · rw [plainText, hrest, plainFrom_word indent (fun c hc => w.isWordChar_of_mem hc) w.getLast?_ne,
      hplain]
    simp
  · rw [hrest, List.drop_left]

theorem quotedText_word (w : Word) (double : Bool)
    (hrest : s.rest = (if double then '\x22' else '\x27') ::
      (w.text ++ (if double then '\x22' else '\x27') :: after))
    (hafter : after.head? ≠ some '\x27') :
    quotedText double s = some (w.text, s.skip (w.text.length + 2)) := by
  have hskip : s.rest.drop (w.text.length + 2) = after := by
    simp [hrest, List.drop_append]
  rw [quotedText, hrest, List.drop_one, List.tail_cons,
    quotedFrom_word double (fun c hc => w.isWordChar_of_mem hc) _ (Nat.succ_pos _),
    quotedFrom_mark double _ (Nat.lt_of_lt_of_le (Nat.succ_pos _) (Nat.le_add_right _ _)) hafter]
  have hplace : ((s.place.step.right w.text.length).step.withKey false) =
      (s.skip (w.text.length + 2)).place := by
    simp only [Place.step, Place.right, Place.withKey, Cursor.skip, Nat.add_comm,
      Nat.add_left_comm, Nat.reduceAdd]
  rw [hplace, List.append_nil, List.reverse_reverse, Option.map_some, Cursor.behind, ← hskip]
  rfl

theorem startsPlain_word (w : Word) (after : List Char) : startsPlain false (w.text ++ after) := by
  obtain ⟨c, rest, htext, hc⟩ := w.exists_text
  have hchar : isWordChar c := w.isWordChar_of_mem (htext ▸ List.mem_cons_self)
  have hindicator : indicators.contains c = false := by
    simpa using mt (List.mem_cons_of_mem '.') hc
  rw [htext, List.cons_append, startsPlain, isBlankOrEnd_wordChar hchar, hindicator]
  rfl

theorem inlineNode_plain (fuel : Nat) (handles : Handles) (w : Word)
    (hrest : s.rest = w.text ++ after) :
    inlineNode (fuel + 1) handles false indent s =
      (plainText false indent s).map fun (text, s) => (.scalar none none true text, s) := by
  obtain ⟨c, rest, htext, hc⟩ := w.exists_text
  have hother {d : Char} (hd : d ∈ indicators) (tail : List Char) : s.rest ≠ d :: tail := by
    rw [hrest, htext]
    rintro h
    obtain ⟨rfl, -⟩ := List.cons.inj h
    exact hc (List.mem_cons_of_mem _ hd)
  rw [inlineNode]
  split
  iterate 5 exact absurd ‹_› (hother (by decide) _)
  rw [if_pos (hrest ▸ startsPlain_word w after)]

/-- A scalar is read with or without quotes. -/
theorem inlineNode_scalar (fuel : Nat) (handles : Handles) (scalar : Scalar)
    (hrest : s.rest = scalar.text ++ after) (h : EndsScalar indent after) :
    ∃ s', inlineNode (fuel + 1) handles false indent s = some (scalar.node, s') ∧
      s'.nextToken false = (s.skip scalar.text.length).nextToken false := by
  obtain ⟨quotes, w⟩ := scalar
  cases quotes with
  | plain =>
    simp only [Scalar.text, Quotes.mark, List.nil_append, List.append_nil] at hrest ⊢
    obtain ⟨s', hplain, hs'⟩ := plainText_word w hrest h
    exact ⟨s', by rw [inlineNode_plain fuel handles w hrest, hplain]; rfl, hs'⟩
  | single =>
    simp only [Scalar.text, Quotes.mark, List.cons_append, List.nil_append,
      List.append_assoc] at hrest
    have hquoted := quotedText_word w false hrest h.head_ne
    refine ⟨s.skip (w.text.length + 2), ?_, by simp [Scalar.text, Quotes.mark]⟩
    rw [inlineNode, hrest]
    simp only [hquoted]
    rfl
  | double =>
    simp only [Scalar.text, Quotes.mark, List.cons_append, List.nil_append,
      List.append_assoc] at hrest
    have hquoted := quotedText_word w true hrest h.head_ne
    refine ⟨s.skip (w.text.length + 2), ?_, by simp [Scalar.text, Quotes.mark]⟩
    rw [inlineNode, hrest]
    simp only [hquoted]
    rfl

theorem inlineNode_leaf (fuel : Nat) (handles : Handles) (leaf : Leaf)
    (hrest : s.rest = leaf.text ++ after) (h : EndsScalar indent after) :
    ∃ s', inlineNode (fuel + 2) handles false indent s = some (leaf.node, s') ∧
      s'.nextToken false = (s.skip leaf.text.length).nextToken false := by
  cases leaf with
  | scalar scalar => exact inlineNode_scalar (fuel + 1) handles scalar hrest h
  | brackets =>
    simp only [Leaf.text, List.cons_append, List.nil_append] at hrest
    have hinner : (s.advance true).rest = ']' :: after := by simp [Cursor.advance, hrest]
    have hclose : (s.advance true).isAmong [']'] := by simp [Cursor.isAmong, hinner]
    refine ⟨s.skip 2, ?_, rfl⟩
    rw [inlineNode, hrest]
    simp only [flowItems, Cursor.nextToken_of_stopsWalk (c := ']') rfl true hinner, hclose]
    simp [Cursor.advance, Cursor.skip, Place.step, Place.withKey, Leaf.node]
  | braces =>
    simp only [Leaf.text, List.cons_append, List.nil_append] at hrest
    have hinner : (s.advance true).rest = '\x7d' :: after := by simp [Cursor.advance, hrest]
    have hclose : (s.advance true).isAmong ['\x7d'] := by simp [Cursor.isAmong, hinner]
    refine ⟨s.skip 2, ?_, rfl⟩
    rw [inlineNode, hrest]
    simp only [flowEntries, Cursor.nextToken_of_stopsWalk (c := '\x7d') rfl true hinner, hclose]
    simp [Cursor.advance, Cursor.skip, Place.step, Place.withKey, Leaf.node]

end

/-! ## Keys -/

/-- The characters that a leaf may start with. -/
def startsLeaf (c : Char) : Bool := startsToken c && !(['-', '.', '?', '&', '!', '%'].contains c)

theorem Word.exists_startsLeaf (w : Word) : ∃ c rest, w.text = c :: rest ∧ startsLeaf c := by
  obtain ⟨c, rest, htext, hc⟩ := w.exists_text
  obtain ⟨-, hblank, hbreak, hother⟩ :=
    isWordChar_iff.mp (w.isWordChar_of_mem (htext ▸ List.mem_cons_self))
  have hmarks : c ∉ ['#', ':', '|', '>', '-', '.', '?', '&', '!', '%'] := fun hmem =>
    hc ((by decide : ['#', ':', '|', '>', '-', '.', '?', '&', '!', '%'] ⊆ '.' :: indicators) hmem)
  have hmark : c ≠ '\ufeff' := by
    rintro rfl
    exact hother (by decide)
  refine ⟨c, rest, htext, ?_⟩
  simp only [List.mem_cons, not_or] at hmarks
  simp [startsLeaf, startsToken, stopsWalk, hblank, hbreak, hmark, hmarks]

theorem Leaf.exists_text (leaf : Leaf) : ∃ c rest, leaf.text = c :: rest ∧ startsLeaf c := by
  cases leaf with
  | scalar scalar =>
    obtain ⟨quotes, w⟩ := scalar
    cases quotes with
    | plain => simpa [Leaf.text, Scalar.text, Quotes.mark] using w.exists_startsLeaf
    | single => exact ⟨_, _, rfl, rfl⟩
    | double => exact ⟨_, _, rfl, rfl⟩
  | brackets => exact ⟨_, _, rfl, rfl⟩
  | braces => exact ⟨_, _, rfl, rfl⟩

def Cursor.AtLeaf (s : Cursor) : Prop := ∃ c rest, s.rest = c :: rest ∧ startsLeaf c

namespace Cursor.AtLeaf

variable {s : Cursor}

theorem of_text (leaf : Leaf) {after : List Char} (hrest : s.rest = leaf.text ++ after) :
    s.AtLeaf := by
  obtain ⟨c, rest, htext, hc⟩ := leaf.exists_text
  exact ⟨c, rest ++ after, by rw [hrest, htext]; rfl, hc⟩

theorem isAhead_eq (h : s.AtLeaf) (mark : Char) (hmark : startsLeaf mark = false) :
    s.isAhead mark = false := by
  obtain ⟨c, rest, hrest, hc⟩ := h
  have hne : c ≠ mark := by
    rintro rfl
    exact absurd hc (by simp [hmark])
  simp [Cursor.isAhead, hrest, hne]

theorem isAmong_eq (h : s.AtLeaf) (marks : List Char) (hmarks : marks.any startsLeaf = false) :
    s.isAmong marks = false := by
  obtain ⟨c, rest, hrest, hc⟩ := h
  have hne : c ∉ marks := fun hmem => by
    simp [List.any_eq_false.mp hmarks c hmem] at hc
  simpa [Cursor.isAmong, hrest] using hne

theorem atEnd_eq (h : s.AtLeaf) : s.atEnd = false := by
  obtain ⟨c, rest, hrest, hc⟩ := h
  have hmarker : isDocumentMarker (c :: rest) = false := by
    have hdash : c ≠ '-' := by rintro rfl; exact absurd hc (by decide)
    have hpoint : c ≠ '.' := by rintro rfl; exact absurd hc (by decide)
    unfold isDocumentMarker isMarker
    split <;> simp_all
  simp [Cursor.atEnd, hrest, hmarker]

/-- No anchor and no tag stand in front of a leaf. -/
theorem properties_eq (h : s.AtLeaf) (handles : Handles) :
    properties handles false s = some (.empty, s) := by
  simp [properties, property, h.isAmong_eq ['&'] rfl, h.isAmong_eq ['!'] rfl,
    Properties.empty, Properties.isEmpty]

end Cursor.AtLeaf

section

variable {s : Cursor} {after : List Char}

@[simp] theorem Properties.isEmpty_empty : Properties.empty.isEmpty = true := rfl

@[simp] theorem Properties.slot_empty : Properties.empty.slot = none := rfl

theorem Leaf.withProperties_node (leaf : Leaf) :
    leaf.node.withProperties .empty = some leaf.node := by
  cases leaf <;> rfl

theorem blockKey_leaf (fuel : Nat) (handles : Handles) {indent : Nat} (leaf : Leaf)
    (hrest : s.rest = leaf.text ++ after) (h : EndsScalar indent after) :
    blockKey (fuel + 2) handles indent s =
      some (leaf.node, (s.skip leaf.text.length).nextToken false) := by
  have hleaf : s.AtLeaf := .of_text leaf hrest
  obtain ⟨s', hnode, hs'⟩ := inlineNode_leaf fuel handles leaf hrest h
  rw [blockKey, hleaf.properties_eq]
  simp [hleaf.atEnd_eq, hnode, leaf.withProperties_node, hs']

end

end CertRenewal.Yaml
