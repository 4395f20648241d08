import CertRenewal.Text.Blank
import CertRenewal.Text.Split
import Mathlib.Data.List.Chain
import Mathlib.Data.List.TakeWhile

/-!
# Pieces of a text

What cutting and trimming make of a text that is put together from parts.

* A separator of two different characters never overlaps itself, so `splitOn_append_pair` cuts a
  text there wherever it occurs, whatever stands on either side.
* `two_le_length_splitOn` counts the pieces of a text in which any separator occurs.
* `cut_eq_some_iff` and `cut_eq_none_iff` say what it is to be cut at the first occurrence of a
  character.
* `trim_append` takes the blanks from around a text that neither starts nor ends with one.
* `joinStrings_eq_intercalate` is about the way back, from pieces to a text.
-/

namespace CertRenewal.Text

variable {α : Type}

/-! ## Separators of two characters -/

theorem consHead_append {c : α} {pieces : List (List α)} (h : pieces ≠ []) (more : List (List α)) :
    consHead c (pieces ++ more) = consHead c pieces ++ more := by
  cases pieces with
  | nil => exact absurd rfl h
  | cons piece rest => rfl

theorem length_consHead {c : α} {pieces : List (List α)} (h : pieces ≠ []) :
    (consHead c pieces).length = pieces.length := by
  cases pieces with
  | nil => exact absurd rfl h
  | cons piece rest => rfl

/-- Nowhere in a text is the one character followed by the other. -/
def LacksPair (x y : α) (s : List α) : Prop := s.IsChain fun c d => ¬ (c = x ∧ d = y)

theorem lacksPair_of_absent {x y : α} {s : List α} (h : ¬ [x, y] <:+: s) : LacksPair x y s := by
  induction s with
  | nil => exact .nil
  | cons c s ih =>
    refine List.isChain_cons.mpr ⟨?_, ih fun hpair => h (hpair.trans (s.suffix_cons c).isInfix)⟩
    rintro d hd ⟨rfl, rfl⟩
    obtain ⟨rest, rfl⟩ := List.head?_eq_some_iff.mp hd
    exact h (List.prefix_append [c, d] rest).isInfix

theorem lacksPair_of_not_mem {x y : α} {s : List α} (h : x ∉ s) : LacksPair x y s :=
  lacksPair_of_absent fun hpair => h (hpair.subset List.mem_cons_self)

section

variable [BEq α] {x y : α}

theorem splitOnFrom_ne_nil (first : α) (others : List α) (skip : Nat) (s : List α) :
    splitOnFrom first others skip s ≠ [] := by
  induction s generalizing skip with
  | nil => exact List.cons_ne_nil _ _
  | cons c s ih =>
    cases skip with
    | succ k => exact ih k
    | zero =>
      rw [splitOnFrom]
      split
      · exact List.cons_ne_nil _ _
      · cases splitOnFrom first others 0 s <;> exact List.cons_ne_nil _ _

variable [LawfulBEq α]

/-- At an occurrence of the separator a piece ends. -/
theorem splitOn_pair_cons_cons (x y : α) (s : List α) :
    splitOn [x, y] (x :: y :: s) = [] :: splitOn [x, y] s := by
  simp [splitOn, splitOnFrom]

/-- Where the separator does not occur a piece goes on. -/
theorem splitOn_pair_cons {c : α} {s : List α} (h : ∀ d ∈ s.head?, ¬ (c = x ∧ d = y)) :
    splitOn [x, y] (c :: s) = consHead c (splitOn [x, y] s) := by
  have hoccurs : [x, y].isPrefixOf (c :: s) = false := by
    cases s with
    | nil => simp [List.isPrefixOf]
    | cons d s =>
      have hpair := h d rfl
      rw [Bool.eq_false_iff, ne_eq, List.isPrefixOf_iff_prefix, List.cons_prefix_cons,
        List.cons_prefix_cons]
      exact fun ⟨hx, hy, _⟩ => hpair ⟨hx.symm, hy.symm⟩
  rw [splitOn, splitOnFrom, if_neg (by rw [hoccurs]; decide), splitOn]

/-- A text is cut at a separator of two different characters, whatever stands before it and behind
it. The cases are those of the separator at the start of the first part. -/
theorem splitOn_append_pair (h : x ≠ y) (s t : List α) :
    splitOn [x, y] (s ++ x :: y :: t) = splitOn [x, y] s ++ splitOn [x, y] t := by
  match s with
  | [] => exact splitOn_pair_cons_cons x y t
  | [c] =>
    -- The last character of the first part and the first one of the separator are no separator.
    have hoverlap : ∀ d ∈ (x :: y :: t).head?, ¬ (c = x ∧ d = y) := by
      rintro d hd ⟨-, rfl⟩
      exact h (Option.some.inj hd)
    have hsingle : splitOn [x, y] [c] = consHead c (splitOn [x, y] []) :=
      splitOn_pair_cons (by simp)
    rw [List.singleton_append, splitOn_pair_cons hoverlap, splitOn_pair_cons_cons, hsingle]
    rfl
  | c :: d :: s =>
    by_cases hpair : c = x ∧ d = y
    · have hrest := splitOn_append_pair h s t
      obtain ⟨rfl, rfl⟩ := hpair
      rw [List.cons_append, List.cons_append, splitOn_pair_cons_cons, splitOn_pair_cons_cons, hrest,
        List.cons_append]
    · have hhead : ∀ rest : List α, ∀ e ∈ (d :: rest).head?, ¬ (c = x ∧ e = y) := by
        rintro rest e he
        cases he
        exact hpair
      calc splitOn [x, y] (c :: d :: (s ++ x :: y :: t))
          = consHead c (splitOn [x, y] (d :: s ++ x :: y :: t)) := splitOn_pair_cons (hhead _)
        _ = consHead c (splitOn [x, y] (d :: s) ++ splitOn [x, y] t) := by
            rw [splitOn_append_pair h (d :: s) t]
        _ = consHead c (splitOn [x, y] (d :: s)) ++ splitOn [x, y] t :=
            consHead_append (splitOnFrom_ne_nil x [y] 0 _) _
        _ = splitOn [x, y] (c :: d :: s) ++ splitOn [x, y] t := by
            rw [splitOn_pair_cons (hhead s)]

/-- A text without the separator is one piece. -/
theorem splitOn_eq_singleton_pair {s : List α} (h : LacksPair x y s) : splitOn [x, y] s = [s] := by
  induction s with
  | nil => rfl
  | cons c s ih =>
    obtain ⟨hhead, hrest⟩ := List.isChain_cons.mp h
    rw [splitOn_pair_cons hhead, ih hrest]
    rfl

end

/-! ## Counting pieces -/

section

variable [BEq α] {first : α} {others : List α}

/-- The rest of an occurrence is passed over. -/
theorem splitOnFrom_skip (used s : List α) :
    splitOnFrom first others used.length (used ++ s) = splitOnFrom first others 0 s := by
  induction used with
  | nil => rfl
  | cons c used ih => rw [List.length_cons, List.cons_append, splitOnFrom, ih]

variable [LawfulBEq α]

/-- A text that starts with the separator has an empty first piece. -/
theorem splitOn_separator_append (s : List α) :
    splitOn (first :: others) (first :: others ++ s) = [] :: splitOn (first :: others) s := by
  have hoccurs : (first :: others).isPrefixOf (first :: (others ++ s)) = true :=
    List.isPrefixOf_iff_prefix.mpr (List.prefix_append (first :: others) s)
  rw [List.cons_append, splitOn, splitOn, splitOnFrom, if_pos hoccurs, splitOnFrom_skip]

/-- A text in which the separator occurs has two pieces at least. -/
theorem two_le_length_splitOn (first : α) (others s t : List α) :
    2 ≤ (splitOn (first :: others) (s ++ (first :: others ++ t))).length := by
  induction s with
  | nil =>
    rw [List.nil_append, splitOn_separator_append, List.length_cons]
    exact Nat.succ_le_succ (List.length_pos_iff.mpr (splitOnFrom_ne_nil first others 0 t))
  | cons c s ih =>
    rw [List.cons_append, splitOn, splitOnFrom]
    split
    · rw [List.length_cons]
      exact Nat.succ_le_succ (List.length_pos_iff.mpr (splitOnFrom_ne_nil first others _ _))
    · rw [length_consHead (splitOnFrom_ne_nil first others 0 _)]
      exact ih

end

/-! ## The first occurrence of a character -/

section

variable [BEq α] [LawfulBEq α] {c : α} {s before after : List α}

theorem cut_eq_none_iff : cut c s = none ↔ c ∉ s := by
  induction s with
  | nil => simp [cut]
  | cons d s ih =>
    rw [cut]
    by_cases hd : d = c
    · simp [hd]
    · rw [if_neg (by simpa using hd), Option.map_eq_none_iff, ih, List.mem_cons, not_or]
      exact ⟨fun h => ⟨Ne.symm hd, h⟩, And.right⟩

theorem cut_append_cons (h : c ∉ before) (after : List α) :
    cut c (before ++ c :: after) = some (before, after) := by
  induction before with
  | nil => simp [cut]
  | cons d before ih =>
    obtain ⟨hd, hbefore⟩ := not_or.mp (mt List.mem_cons.mpr h)
    rw [List.cons_append, cut, if_neg (by simpa using Ne.symm hd), ih hbefore]
    rfl

/-- A text is cut where the character first stands. -/
theorem cut_eq_some_iff :
    cut c s = some (before, after) ↔ s = before ++ c :: after ∧ c ∉ before := by
  constructor
  · intro h
    have hmem : c ∈ s := by
      by_contra hnot
      rw [cut_eq_none_iff.mpr hnot] at h
      cases h
    obtain ⟨before', after', rfl, hbefore⟩ := List.eq_append_cons_of_mem hmem
    rw [cut_append_cons hbefore] at h
    cases h
    exact ⟨rfl, hbefore⟩
  · rintro ⟨rfl, hbefore⟩
    exact cut_append_cons hbefore after

end

/-! ## Ends of a text -/

section

variable {p : α → Bool} {s t : List α}

/-- What is removed from the start goes up to what stays. -/
theorem dropWhile_append_of_head (hs : ∀ c ∈ s, p c = true) (ht : ∀ c ∈ t.head?, p c = false) :
    (s ++ t).dropWhile p = t := by
  rw [List.dropWhile_append_of_pos hs]
  cases t with
  | nil => rfl
  | cons c t => exact List.dropWhile_cons_of_neg (by simpa using ht c rfl)

/-- What is removed ends in front of the last character that stays. -/
theorem dropEndWhile_append_of_last (hs : ∀ c ∈ s.getLast?, p c = false)
    (ht : ∀ c ∈ t, p c = true) : dropEndWhile p (s ++ t) = s := by
  rw [dropEndWhile, List.reverse_append,
    dropWhile_append_of_head (by simpa using ht) (by simpa using hs), List.reverse_reverse]

end

/-- Blanks around a text that neither starts nor ends with one are removed. -/
theorem trim_append {u s v : List Char} (hu : ∀ c ∈ u, isBlank c = true)
    (hv : ∀ c ∈ v, isBlank c = true) (hhead : ∀ c ∈ s.head?, isBlank c = false)
    (hlast : ∀ c ∈ s.getLast?, isBlank c = false) : trim (u ++ s ++ v) = s := by
  cases s with
  | nil =>
    have hall : trimStart (u ++ [] ++ v) = [] := by
      rw [trimStart, List.append_nil, List.dropWhile_eq_nil_iff]
      exact List.forall_mem_append.mpr ⟨hu, hv⟩
    rw [trim, hall]
    rfl
  | cons c s =>
    rw [trim, trimStart, List.append_assoc, dropWhile_append_of_head hu (by simpa using hhead)]
    exact dropEndWhile_append_of_last hlast hv

/-! ## Joining -/

theorem join_eq_intercalate {α : Type} (separator : List α) (pieces : List (List α)) :
    join separator pieces = separator.intercalate pieces := by
  fun_induction join separator pieces with
  | case1 => exact List.intercalate_nil.symm
  | case2 piece => exact List.intercalate_singleton.symm
  | case3 piece rest hrest ih =>
    obtain ⟨next, more, rfl⟩ := List.exists_cons_of_ne_nil hrest
    rw [ih, List.intercalate_cons_cons]

/-- Joining is that of the standard library. -/
theorem joinStrings_eq_intercalate (separator : String) (pieces : List String) :
    joinStrings separator pieces = separator.intercalate pieces := by
  rw [← String.toList_inj, String.toList_intercalate, joinStrings, String.toList_ofList,
    join_eq_intercalate]

end CertRenewal.Text
