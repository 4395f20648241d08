import CertRenewal.Json.Parser
import CertRenewal.Json.Printer
import Mathlib.Data.List.DropRight

/-!
# What is written over several lines is read back

`Textual.isReadBack` reads a value back from its text, at any depth and whatever follows it. It is
by induction on the value; the readers of items and fields follow the lists (`items_prettyItems`,
`fields_prettyFields`), and `stringBody_flatMap_escape` follows the characters of a string. The
length of the text is fuel enough, since each step of the readers takes a character of it.

Numbers are left out: what follows a number may be read as a part of it.
-/

namespace CertRenewal.Json

open Json.Parser

inductive Textual : Json → Prop where
  | string (s : String) : Textual (.string s)
  | array {items : List Json} (h : ∀ value ∈ items, Textual value) : Textual (.array items)
  | object {fields : Fields} (h : ∀ field ∈ fields, Textual field.2) : Textual (.object fields)

/-! ## Strings -/

/-- The four digits of an escape give the control character back. -/
theorem hexNumber?_of_lt {n : Nat} (h : n < 32) :
    hexNumber? '0' '0' (hexDigit (n / 16)) (hexDigit (n % 16)) = some n := by
  revert n
  decide

/-- A character is read back from how it is written. -/
theorem stringBody_escape (text : List Char) (c : Char) (rest : List Char) :
    stringBody text (escape c ++ rest) = stringBody (c :: text) rest := by
  rw [escape]
  -- The seven characters that have a short escape.
  iterate 7
    split
    · next h =>
      subst h
      rfl
  split
  · next hcontrol =>
    have hof : Char.ofNat c.toNat = c := Char.ofNat_toNat c
    simp only [List.cons_append, List.nil_append, stringBody, hexNumber?_of_lt hcontrol]
    rw [if_neg (by omega), if_neg (by omega), hof]
  · next hquote hbackslash _ _ _ _ _ hcontrol =>
    rw [List.singleton_append, stringBody, if_neg hcontrol]
    · exact hquote
    · exact fun _ _ _ _ _ h _ => hbackslash h
    · exact fun _ _ h _ => hbackslash h

/-- Every character of a string is read back, escaped or not. -/
theorem stringBody_flatMap_escape (text s rest : List Char) :
    stringBody text (s.flatMap escape ++ '\x22' :: rest) =
      some (String.ofList (text.reverse ++ s), rest) := by
  induction s generalizing text with
  | nil => rw [List.flatMap_nil, List.nil_append, stringBody, List.append_nil]
  | cons c more ih =>
    rw [List.flatMap_cons, List.append_assoc, stringBody_escape, ih, List.reverse_cons,
      List.append_assoc, List.singleton_append]

/-- A string is read back from its text. -/
theorem stringBody_quoted (s : String) (rest : List Char) :
    stringBody [] (s.toList.flatMap escape ++ '\x22' :: rest) = some (s, rest) := by
  rw [stringBody_flatMap_escape, List.reverse_nil, List.nil_append, String.ofList_toList]

/-! ## Blanks -/

/-- Characters that are not passed over. -/
def marks : List Char := ['\x22', '[', ']', '{', '}', ':', ',']

/-- No mark is passed over as a blank. -/
theorem skipBlanks_mark {c : Char} (h : c ∈ marks) (rest : List Char) :
    skipBlanks (c :: rest) = c :: rest := by
  simp only [marks, List.mem_cons, List.not_mem_nil, or_false] at h
  rcases h with rfl | rfl | rfl | rfl | rfl | rfl | rfl <;> rfl

theorem skipBlanks_newLine (depth : Nat) (rest : List Char) :
    skipBlanks (newLine depth ++ rest) = skipBlanks rest := by
  refine List.dropWhile_append_of_pos fun c hc => ?_
  rcases List.mem_cons.mp hc with rfl | hspace
  · rfl
  · rw [(List.mem_replicate.mp hspace).2]
    rfl

theorem skipBlanks_skipBlanks (s : List Char) : skipBlanks (skipBlanks s) = skipBlanks s :=
  List.dropWhile_idempotent _ s

/-- Blanks before a value do not count. -/
theorem value_skipBlanks (fuel : Nat) (s : List Char) :
    Parser.value fuel (skipBlanks s) = Parser.value fuel s := by
  cases fuel with
  | zero => rfl
  | succ fuel => rw [Parser.value, Parser.value, skipBlanks_skipBlanks]

theorem items_skipBlanks (fuel : Nat) (s : List Char) :
    Parser.items fuel (skipBlanks s) = Parser.items fuel s := by
  cases fuel with
  | zero => rfl
  | succ fuel => rw [Parser.items, Parser.items, value_skipBlanks]

theorem fields_skipBlanks (fuel : Nat) (s : List Char) :
    Parser.fields fuel (skipBlanks s) = Parser.fields fuel s := by
  cases fuel with
  | zero => rfl
  | succ fuel => rw [Parser.fields, Parser.fields, skipBlanks_skipBlanks]

theorem value_newLine (fuel depth : Nat) (s : List Char) :
    Parser.value fuel (newLine depth ++ s) = Parser.value fuel s := by
  rw [← value_skipBlanks, skipBlanks_newLine, value_skipBlanks]

theorem value_space (fuel : Nat) (s : List Char) :
    Parser.value fuel (' ' :: s) = Parser.value fuel s := by
  have hspace : skipBlanks (' ' :: s) = skipBlanks s := rfl
  rw [← value_skipBlanks, hspace, value_skipBlanks]

theorem length_newLine_pos (depth : Nat) : 0 < (newLine depth).length := Nat.succ_pos _

/-! ## Arrays and objects -/

/-- A value is read back from its text, at any depth and whatever follows it. -/
def IsReadBack (v : Json) : Prop :=
  ∀ depth fuel rest, (prettyAt depth v).length ≤ fuel →
    Parser.value fuel (prettyAt depth v ++ rest) = some (v, rest)

theorem isReadBack_string (s : String) : IsReadBack (.string s) := by
  intro depth fuel rest hfuel
  have htext : prettyAt depth (.string s) = '\x22' :: (s.toList.flatMap escape ++ ['\x22']) := rfl
  rw [htext] at hfuel ⊢
  obtain ⟨fuel, rfl⟩ := Nat.exists_eq_add_one.mpr (Nat.lt_of_lt_of_le (Nat.succ_pos _) hfuel)
  rw [List.cons_append, Parser.value, skipBlanks_mark (c := '\x22') (by decide), List.append_assoc,
    List.singleton_append]
  simp only [stringBody_quoted, Option.map_some]

/-- Items are read back one after the other. -/
theorem items_prettyItems {items : List Json} (hitems : items ≠ [])
    (h : ∀ v ∈ items, IsReadBack v) (depth fuel : Nat) (rest : List Char)
    (hfuel : (prettyItems depth items).length ≤ fuel) :
    Parser.items fuel (prettyItems depth items ++ rest) = some (items, rest) := by
  induction items generalizing fuel with
  | nil => exact absurd rfl hitems
  | cons v more ih =>
    have hline := length_newLine_pos (depth + 1)
    have hv := h v List.mem_cons_self (depth + 1)
    cases more with
    | nil =>
      simp only [prettyItems, List.append_assoc, List.length_append] at hfuel ⊢
      obtain ⟨fuel, rfl⟩ := Nat.exists_eq_add_one.mpr (show 0 < fuel by omega)
      rw [Parser.items, value_newLine, hv fuel _ (by omega)]
      simp (disch := decide) only [skipBlanks_newLine, skipBlanks_mark, List.singleton_append]
    | cons w others =>
      simp only [prettyItems, List.append_assoc, List.length_append, List.cons_append,
        List.length_cons] at hfuel ⊢
      obtain ⟨fuel, rfl⟩ := Nat.exists_eq_add_one.mpr (show 0 < fuel by omega)
      have hothers := ih (List.cons_ne_nil w others) (fun u hu => h u (List.mem_cons_of_mem v hu))
        fuel (by omega)
      rw [Parser.items, value_newLine, hv fuel _ (by omega)]
      simp (disch := decide) only [skipBlanks_mark, hothers, Option.map_some]

/-- A field is the last where its value is closed. -/
theorem fields_last {fuel depth : Nat} {key : String} {v : Json} {s rest after : List Char}
    (h : Parser.value fuel s = some (v, rest)) (hclosed : skipBlanks rest = '}' :: after) :
    Parser.fields (fuel + 1) (newLine depth ++ (quoted key.toList ++ ':' :: ' ' :: s)) =
      some ([(key, v)], after) := by
  rw [Parser.fields, skipBlanks_newLine, quoted, List.cons_append,
    skipBlanks_mark (c := '\x22') (by decide)]
  simp (disch := decide) only [List.append_assoc, List.singleton_append, stringBody_quoted,
    skipBlanks_mark, value_space, h, hclosed]

/-- A field has others behind it where a comma follows its value. -/
theorem fields_comma {fuel depth : Nat} {key : String} {v : Json} {s rest after : List Char}
    (h : Parser.value fuel s = some (v, rest)) (hcomma : skipBlanks rest = ',' :: after) :
    Parser.fields (fuel + 1) (newLine depth ++ (quoted key.toList ++ ':' :: ' ' :: s)) =
      (Parser.fields fuel after).map fun (more, rest) => ((key, v) :: more, rest) := by
  rw [Parser.fields, skipBlanks_newLine, quoted, List.cons_append,
    skipBlanks_mark (c := '\x22') (by decide)]
  simp (disch := decide) only [List.append_assoc, List.singleton_append, stringBody_quoted,
    skipBlanks_mark, value_space, h, hcomma]

/-- Fields are read back one after the other, each with its key. -/
theorem fields_prettyFields {fields : Fields} (hfields : fields ≠ [])
    (h : ∀ field ∈ fields, IsReadBack field.2) (depth fuel : Nat) (rest : List Char)
    (hfuel : (prettyFields depth fields).length ≤ fuel) :
    Parser.fields fuel (prettyFields depth fields ++ rest) = some (fields, rest) := by
  induction fields generalizing fuel with
  | nil => exact absurd rfl hfields
  | cons field more ih =>
    obtain ⟨key, v⟩ := field
    have hline := length_newLine_pos (depth + 1)
    have hv : IsReadBack v := h (key, v) List.mem_cons_self
    cases more with
    | nil =>
      simp only [prettyFields, List.append_assoc, List.length_append, List.cons_append,
        List.nil_append, List.length_cons] at hfuel ⊢
      obtain ⟨fuel, rfl⟩ := Nat.exists_eq_add_one.mpr (show 0 < fuel by omega)
      refine fields_last (hv (depth + 1) fuel _ (by omega)) ?_
      simp (disch := decide) only [skipBlanks_newLine, skipBlanks_mark]
    | cons w others =>
      simp only [prettyFields, List.append_assoc, List.length_append, List.cons_append,
        List.length_cons] at hfuel ⊢
      obtain ⟨fuel, rfl⟩ := Nat.exists_eq_add_one.mpr (show 0 < fuel by omega)
      have hothers := ih (List.cons_ne_nil w others) (fun u hu => h u (List.mem_cons_of_mem _ hu))
        fuel (by omega)
      rw [fields_comma (hv (depth + 1) fuel _ (by omega)) (skipBlanks_mark (by decide) _), hothers]
      rfl

/-- The text of a value begins with a mark that closes nothing. -/
theorem Textual.exists_prettyAt {v : Json} (h : Textual v) (depth : Nat) :
    ∃ c more, prettyAt depth v = c :: more ∧ c ∈ marks ∧ c ≠ ']' := by
  cases h with
  | string s => exact ⟨'\x22', _, rfl, by decide⟩
  | @array items h =>
    cases items with
    | nil => exact ⟨'[', _, rfl, by decide⟩
    | cons v more => exact ⟨'[', _, rfl, by decide⟩
  | @object fields h =>
    cases fields with
    | nil => exact ⟨'{', _, rfl, by decide⟩
    | cons field more => exact ⟨'{', _, rfl, by decide⟩

/-- An array that is not empty does not close where its first item begins. -/
theorem Textual.skipBlanks_prettyItems {v : Json} (h : Textual v) (depth : Nat)
    (more : List Json) (rest : List Char) :
    ∃ c s, skipBlanks (prettyItems depth (v :: more) ++ rest) = c :: s ∧ c ≠ ']' := by
  obtain ⟨c, s, hs, hmark, hopens⟩ := h.exists_prettyAt (depth + 1)
  cases more with
  | nil =>
    simp only [prettyItems, List.append_assoc, skipBlanks_newLine, hs, List.cons_append]
    exact ⟨c, _, skipBlanks_mark hmark _, hopens⟩
  | cons w others =>
    simp only [prettyItems, List.append_assoc, skipBlanks_newLine, hs, List.cons_append]
    exact ⟨c, _, skipBlanks_mark hmark _, hopens⟩

theorem skipBlanks_prettyFields (depth : Nat) (field : String × Json) (more : Fields)
    (rest : List Char) :
    ∃ s, skipBlanks (prettyFields depth (field :: more) ++ rest) = '\x22' :: s := by
  cases more with
  | nil =>
    simp only [prettyFields, List.append_assoc, skipBlanks_newLine, quoted, List.cons_append]
    exact ⟨_, skipBlanks_mark (by decide) _⟩
  | cons w others =>
    simp only [prettyFields, List.append_assoc, skipBlanks_newLine, quoted, List.cons_append]
    exact ⟨_, skipBlanks_mark (by decide) _⟩

/-- An array is read back when its items are. -/
theorem isReadBack_array {items : List Json} (h : ∀ v ∈ items, Textual v)
    (hitems : ∀ v ∈ items, IsReadBack v) : IsReadBack (.array items) := by
  intro depth fuel rest hfuel
  cases items with
  | nil =>
    obtain ⟨fuel, rfl⟩ := Nat.exists_eq_add_one.mpr (Nat.lt_of_lt_of_le (Nat.succ_pos _) hfuel)
    rfl
  | cons v more =>
    have htext : prettyAt depth (.array (v :: more)) = '[' :: prettyItems depth (v :: more) := rfl
    rw [htext] at hfuel ⊢
    obtain ⟨fuel, rfl⟩ := Nat.exists_eq_add_one.mpr (Nat.lt_of_lt_of_le (Nat.succ_pos _) hfuel)
    have hread := items_prettyItems (List.cons_ne_nil v more) hitems depth fuel rest
      (Nat.le_of_succ_le_succ hfuel)
    -- The parser looks for the end of the array first, and no item begins like that.
    obtain ⟨c, s, hs, hc⟩ := (h v List.mem_cons_self).skipBlanks_prettyItems depth more rest
    rw [← items_skipBlanks, hs] at hread
    rw [List.cons_append, Parser.value, skipBlanks_mark (c := '[') (by decide)]
    simp only [hs]
    split
    · next hclose => exact absurd (List.cons.inj hclose).1 hc
    · rw [hread]
      rfl

/-- An object is read back when the values of its fields are. -/
theorem isReadBack_object {fields : Fields} (h : ∀ field ∈ fields, IsReadBack field.2) :
    IsReadBack (.object fields) := by
  intro depth fuel rest hfuel
  cases fields with
  | nil =>
    obtain ⟨fuel, rfl⟩ := Nat.exists_eq_add_one.mpr (Nat.lt_of_lt_of_le (Nat.succ_pos _) hfuel)
    rfl
  | cons field more =>
    have htext : prettyAt depth (.object (field :: more)) =
        '{' :: prettyFields depth (field :: more) := rfl
    rw [htext] at hfuel ⊢
    obtain ⟨fuel, rfl⟩ := Nat.exists_eq_add_one.mpr (Nat.lt_of_lt_of_le (Nat.succ_pos _) hfuel)
    have hread := fields_prettyFields (List.cons_ne_nil field more) h depth fuel rest
      (Nat.le_of_succ_le_succ hfuel)
    obtain ⟨s, hs⟩ := skipBlanks_prettyFields depth field more rest
    rw [← fields_skipBlanks, hs] at hread
    rw [List.cons_append, Parser.value, skipBlanks_mark (c := '{') (by decide)]
    simp only [hs]
    exact congrArg (Option.map fun (fields, rest) => (object fields, rest)) hread

/-- A value of strings, arrays and objects is read back from its text. -/
theorem Textual.isReadBack {v : Json} (h : Textual v) : IsReadBack v := by
  induction h with
  | string s => exact isReadBack_string s
  | array h ih => exact isReadBack_array h ih
  | object h ih => exact isReadBack_object ih

/-- Such values with the same text are the same. -/
theorem Textual.eq_of_pretty {v w : Json} (hv : Textual v) (hw : Textual w)
    (h : v.pretty = w.pretty) : v = w := by
  have hread : ∀ {u : Json}, Textual u →
      Parser.value u.pretty.length (u.pretty ++ []) = some (u, []) :=
    fun hu => hu.isReadBack 0 _ [] (Nat.le_refl _)
  have hboth := hread hv
  rw [h, hread hw] at hboth
  exact (Prod.mk.inj (Option.some.inj hboth)).1.symm

end CertRenewal.Json
