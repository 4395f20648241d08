import CertRenewal.Text.Utf8
import Mathlib.Data.List.Basic
import Mathlib.Data.UInt

/-!
# Text is read back from its bytes

`front_encodeChar` reads a character from the front of bytes that begin with those of the character,
one case for each number of bytes, and `decode_encode` reads a text back. Hence two texts with the
same bytes are the same (`encode_injective`).
-/

namespace CertRenewal.Text.Utf8

/-- The bytes of a text are put together piece by piece. -/
theorem encode_append (s t : List Char) : encode (s ++ t) = encode s ++ encode t :=
  List.flatMap_append

/-- A character has the bytes that the standard library gives it. The remainders there make no
difference below the end of Unicode. -/
theorem encodeChar_eq (c : Char) : encodeChar c = String.utf8EncodeChar c := by
  have hrange : c.toNat < 0x110000 := c.valid.elim (fun h => Nat.lt_trans h (by decide)) (·.2)
  have hval : c.val.toNat = c.toNat := rfl
  simp only [encodeChar, String.utf8EncodeChar, Nat.toUInt8, hval]
  generalize c.toNat = n at hrange
  rcases Nat.lt_or_ge n 0x80 with hone | hone
  · simp only [hone, Nat.le_of_lt_succ hone, ↓reduceIte]
  have hone' : ¬ n ≤ 127 := by omega
  rcases Nat.lt_or_ge n 0x800 with htwo | htwo
  · have hhigh : 0xC0 + n / 64 = n / 64 % 32 + 192 := by omega
    simp only [Nat.not_lt.mpr hone, hone', htwo, Nat.le_of_lt_succ htwo, ↓reduceIte, hhigh,
      Nat.add_comm 0x80]
  have htwo' : ¬ n ≤ 2047 := by omega
  rcases Nat.lt_or_ge n 0x10000 with hthree | hthree
  · have hhigh : 0xE0 + n / 4096 = n / 4096 % 16 + 224 := by omega
    simp only [Nat.not_lt.mpr hone, hone', Nat.not_lt.mpr htwo, htwo', hthree,
      Nat.le_of_lt_succ hthree, ↓reduceIte, hhigh, Nat.add_comm 0x80]
  · have hthree' : ¬ n ≤ 65535 := by omega
    have hhigh : 0xF0 + n / 262144 = n / 262144 % 8 + 240 := by omega
    simp only [Nat.not_lt.mpr hone, hone', Nat.not_lt.mpr htwo, htwo', Nat.not_lt.mpr hthree,
      hthree', ↓reduceIte, hhigh, Nat.add_comm 0x80]

/-- The bytes of a string are those that the standard library gives it. -/
theorem encode_toList (s : String) : encode s.toList = s.toUTF8.data.toList := by
  have hchars : encode s.toList = s.toList.flatMap String.utf8EncodeChar :=
    congrArg (s.toList.flatMap ·) (funext encodeChar_eq)
  have hbytes : s.toByteArray = s.toList.utf8Encode := by
    rw [← String.toByteArray_ofList, String.ofList_toList]
  rw [hchars, String.toUTF8_eq_toByteArray, hbytes, List.utf8Encode, List.toList_data_toByteArray]

/-- A character has a byte of its own. -/
theorem length_le_size (s : List Char) : s.length ≤ size s := by
  induction s with
  | nil => exact Nat.le_refl 0
  | cons c s ih =>
    have hwidth : 1 ≤ width c := by
      rw [width]
      split_ifs <;> omega
    rw [List.length_cons, size]
    omega

/-! ## One character -/

theorem toNat_toUInt8 {n : Nat} (h : n < 256) : n.toUInt8.toNat = n := by
  rw [Nat.toUInt8, UInt8.toNat_ofNat', Nat.mod_eq_of_lt h]

theorem le_toUInt8_iff {n : Nat} (h : n < 256) (b : UInt8) : b ≤ n.toUInt8 ↔ b.toNat ≤ n := by
  rw [UInt8.le_iff_toNat_le, toNat_toUInt8 h]

theorem toUInt8_le_iff {n : Nat} (h : n < 256) (b : UInt8) : n.toUInt8 ≤ b ↔ n ≤ b.toNat := by
  rw [UInt8.le_iff_toNat_le, toNat_toUInt8 h]

theorem toUInt8_lt_iff {n : Nat} (h : n < 256) (b : UInt8) : n.toUInt8 < b ↔ n < b.toNat := by
  rw [UInt8.lt_iff_toNat_lt, toNat_toUInt8 h]

theorem toUInt8_eq_iff {n : Nat} (h : n < 256) (b : UInt8) : n.toUInt8 = b ↔ n = b.toNat := by
  rw [← UInt8.toNat_inj, toNat_toUInt8 h]

/-- A byte that continues a character. -/
theorem isTail_continuing {n : Nat} (h : n < 64) : isTail (0x80 + n).toUInt8 = true := by
  have hlow : 0x80 ≤ (0x80 + n).toUInt8 := (le_toUInt8_iff (by omega) _).mpr (Nat.le_add_right _ _)
  have hhigh : (0x80 + n).toUInt8 ≤ 0xBF :=
    (toUInt8_le_iff (by omega) _).mpr (show 0x80 + n ≤ 0xBF by omega)
  rw [isTail, decide_eq_true hlow, decide_eq_true hhigh]
  rfl

/-- A continuing byte gives its six bits back. -/
theorem tailBits_continuing {n : Nat} (h : n < 64) : tailBits (0x80 + n).toUInt8 = n := by
  rw [tailBits, toNat_toUInt8 (by omega)]
  omega

section

variable {a b c d : Nat} (rest : List UInt8)

theorem front_one (h : a < 0x80) : front a.toUInt8 rest = .character (Char.ofNat a) 1 := by
  have hfirst : a.toUInt8 < 0x80 := (toUInt8_lt_iff (by omega) _).mpr h
  rw [front.eq_def, if_pos hfirst, toNat_toUInt8 (by omega)]

theorem front_two (hleast : 2 ≤ a) (ha : a < 32) (hb : b < 64) :
    front (0xC0 + a).toUInt8 ((0x80 + b).toUInt8 :: rest) =
      .character (Char.ofNat (a * 64 + b)) 2 := by
  have hone : ¬ (0xC0 + a).toUInt8 < 0x80 :=
    mt (toUInt8_lt_iff (by omega) _).mp (show ¬ 0xC0 + a < 0x80 by omega)
  have hlow : 0xC2 ≤ (0xC0 + a).toUInt8 :=
    (le_toUInt8_iff (by omega) _).mpr (show 0xC2 ≤ 0xC0 + a by omega)
  have hhigh : (0xC0 + a).toUInt8 ≤ 0xDF :=
    (toUInt8_le_iff (by omega) _).mpr (show 0xC0 + a ≤ 0xDF by omega)
  rw [front.eq_def, if_neg hone, decide_eq_true hlow, decide_eq_true hhigh]
  simp only [Bool.and_self, if_true, isTail_continuing hb, tailBits_continuing hb]
  rw [toNat_toUInt8 (by omega), Nat.add_sub_cancel_left]

/-- Three bytes. The second one must not make of them a character that fewer bytes can hold, or a
surrogate. -/
theorem front_three (ha : a < 16) (hb : b < 64) (hc : c < 64) (hleast : a = 0 → 32 ≤ b)
    (hsurrogate : a = 13 → b < 32) :
    front (0xE0 + a).toUInt8 ((0x80 + b).toUInt8 :: (0x80 + c).toUInt8 :: rest) =
      .character (Char.ofNat ((a * 64 + b) * 64 + c)) 3 := by
  have hone : ¬ (0xE0 + a).toUInt8 < 0x80 :=
    mt (toUInt8_lt_iff (by omega) _).mp (show ¬ 0xE0 + a < 0x80 by omega)
  have htwo : ¬ (0xE0 + a).toUInt8 ≤ 0xDF :=
    mt (toUInt8_le_iff (by omega) _).mp (show ¬ 0xE0 + a ≤ 0xDF by omega)
  have hlow : 0xE0 ≤ (0xE0 + a).toUInt8 := (le_toUInt8_iff (by omega) _).mpr (Nat.le_add_right _ _)
  have hhigh : (0xE0 + a).toUInt8 ≤ 0xEF :=
    (toUInt8_le_iff (by omega) _).mpr (show 0xE0 + a ≤ 0xEF by omega)
  have hsecond : (if (0xE0 + a).toUInt8 = 0xE0 then 0xA0 else 0x80) ≤ (0x80 + b).toUInt8 := by
    split
    · next h =>
      have hzero : 0xE0 + a = 0xE0 := (toUInt8_eq_iff (by omega) _).mp h
      exact (le_toUInt8_iff (by omega) _).mpr (show 0xA0 ≤ 0x80 + b by omega)
    · exact (le_toUInt8_iff (by omega) _).mpr (Nat.le_add_right _ _)
  have hsecond' : (0x80 + b).toUInt8 ≤ (if (0xE0 + a).toUInt8 = 0xED then 0x9F else 0xBF) := by
    split
    · next h =>
      have hthirteen : 0xE0 + a = 0xED := (toUInt8_eq_iff (by omega) _).mp h
      exact (toUInt8_le_iff (by omega) _).mpr (show 0x80 + b ≤ 0x9F by omega)
    · exact (toUInt8_le_iff (by omega) _).mpr (show 0x80 + b ≤ 0xBF by omega)
  rw [front.eq_def, if_neg hone, decide_eq_false htwo, Bool.and_false, if_neg Bool.false_ne_true,
    decide_eq_true hlow, decide_eq_true hhigh, Bool.and_self, if_pos rfl]
  dsimp only
  rw [decide_eq_true hsecond, decide_eq_true hsecond', Bool.and_self, if_pos rfl,
    tailBits_continuing hb, toNat_toUInt8 (by omega), Nat.add_sub_cancel_left, frontOfThree,
    isTail_continuing hc, if_pos rfl, tailBits_continuing hc]

/-- Four bytes. The second one must not make of them a character that fewer bytes can hold, or one
beyond the last. -/
theorem front_four (ha : a < 5) (hb : b < 64) (hc : c < 64) (hd : d < 64)
    (hleast : a = 0 → 16 ≤ b) (hlast : a = 4 → b < 16) :
    front (0xF0 + a).toUInt8
        ((0x80 + b).toUInt8 :: (0x80 + c).toUInt8 :: (0x80 + d).toUInt8 :: rest) =
      .character (Char.ofNat (((a * 64 + b) * 64 + c) * 64 + d)) 4 := by
  have hone : ¬ (0xF0 + a).toUInt8 < 0x80 :=
    mt (toUInt8_lt_iff (by omega) _).mp (show ¬ 0xF0 + a < 0x80 by omega)
  have htwo : ¬ (0xF0 + a).toUInt8 ≤ 0xDF :=
    mt (toUInt8_le_iff (by omega) _).mp (show ¬ 0xF0 + a ≤ 0xDF by omega)
  have hthree : ¬ (0xF0 + a).toUInt8 ≤ 0xEF :=
    mt (toUInt8_le_iff (by omega) _).mp (show ¬ 0xF0 + a ≤ 0xEF by omega)
  have hlow : 0xF0 ≤ (0xF0 + a).toUInt8 := (le_toUInt8_iff (by omega) _).mpr (Nat.le_add_right _ _)
  have hhigh : (0xF0 + a).toUInt8 ≤ 0xF4 :=
    (toUInt8_le_iff (by omega) _).mpr (show 0xF0 + a ≤ 0xF4 by omega)
  have hsecond : (if (0xF0 + a).toUInt8 = 0xF0 then 0x90 else 0x80) ≤ (0x80 + b).toUInt8 := by
    split
    · next h =>
      have hzero : 0xF0 + a = 0xF0 := (toUInt8_eq_iff (by omega) _).mp h
      exact (le_toUInt8_iff (by omega) _).mpr (show 0x90 ≤ 0x80 + b by omega)
    · exact (le_toUInt8_iff (by omega) _).mpr (Nat.le_add_right _ _)
  have hsecond' : (0x80 + b).toUInt8 ≤ (if (0xF0 + a).toUInt8 = 0xF4 then 0x8F else 0xBF) := by
    split
    · next h =>
      have hfour : 0xF0 + a = 0xF4 := (toUInt8_eq_iff (by omega) _).mp h
      exact (toUInt8_le_iff (by omega) _).mpr (show 0x80 + b ≤ 0x8F by omega)
    · exact (toUInt8_le_iff (by omega) _).mpr (show 0x80 + b ≤ 0xBF by omega)
  rw [front.eq_def, if_neg hone, decide_eq_false htwo, Bool.and_false, if_neg Bool.false_ne_true,
    decide_eq_false hthree, Bool.and_false, if_neg Bool.false_ne_true,
    decide_eq_true hlow, decide_eq_true hhigh, Bool.and_self, if_pos rfl]
  dsimp only
  rw [decide_eq_true hsecond, decide_eq_true hsecond', Bool.and_self, if_pos rfl,
    tailBits_continuing hb, toNat_toUInt8 (by omega), Nat.add_sub_cancel_left, frontOfFour,
    isTail_continuing hc, if_pos rfl, isTail_continuing hd, if_pos rfl, tailBits_continuing hc,
    tailBits_continuing hd]

end

/-- The bytes of a character, and what is read from them. -/
theorem front_encodeChar (c : Char) :
    ∃ b more, encodeChar c = b :: more ∧ width c = more.length + 1 ∧
      ∀ rest, front b (more ++ rest) = .character c (width c) := by
  -- That no character is a surrogate or beyond the last is what the longer widths need.
  have hvalid : c.toNat < 0xD800 ∨ 0xDFFF < c.toNat ∧ c.toNat < 0x110000 := c.valid
  have hof : Char.ofNat c.toNat = c := Char.ofNat_toNat c
  rw [encodeChar, width]
  generalize c.toNat = n at hvalid hof
  by_cases hone : n < 0x80
  · simp only [if_pos hone]
    refine ⟨_, _, rfl, rfl, fun rest => ?_⟩
    rw [← hof]
    exact front_one rest hone
  by_cases htwo : n < 0x800
  · simp only [if_neg hone, if_pos htwo]
    refine ⟨_, _, rfl, rfl, fun rest => ?_⟩
    have hread := front_two (a := n / 64) (b := n % 64) rest (by omega) (by omega) (by omega)
    have hparts : n / 64 * 64 + n % 64 = n := by omega
    rwa [hparts, hof] at hread
  by_cases hthree : n < 0x10000
  · simp only [if_neg hone, if_neg htwo, if_pos hthree]
    refine ⟨_, _, rfl, rfl, fun rest => ?_⟩
    have hread := front_three (a := n / 4096) (b := n / 64 % 64) (c := n % 64) rest (by omega)
      (by omega) (by omega) (by omega) (by omega)
    have hparts : (n / 4096 * 64 + n / 64 % 64) * 64 + n % 64 = n := by omega
    rwa [hparts, hof] at hread
  · simp only [if_neg hone, if_neg htwo, if_neg hthree]
    refine ⟨_, _, rfl, rfl, fun rest => ?_⟩
    have hread := front_four (a := n / 262144) (b := n / 4096 % 64) (c := n / 64 % 64)
      (d := n % 64) rest (by omega) (by omega) (by omega) (by omega) (by omega) (by omega)
    have hparts : ((n / 262144 * 64 + n / 4096 % 64) * 64 + n / 64 % 64) * 64 + n % 64 = n := by
      omega
    rwa [hparts, hof] at hread

/-- A byte of a character is the character itself, when it is one of ASCII, or is none of ASCII. -/
theorem byte_of_mem_encodeChar {c : Char} {b : UInt8} (h : b ∈ encodeChar c) :
    b.toNat = c.toNat ∨ 0x80 ≤ b.toNat ∧ 0x80 ≤ c.toNat := by
  have hvalid : c.toNat < 0xD800 ∨ 0xDFFF < c.toNat ∧ c.toNat < 0x110000 := c.valid
  rw [encodeChar] at h
  generalize c.toNat = n at h hvalid
  split_ifs at h with hone htwo hthree
  · simp only [List.mem_singleton] at h
    rw [h, toNat_toUInt8 (by omega)]
    exact .inl rfl
  · refine .inr ⟨?_, by omega⟩
    simp only [List.mem_cons, List.not_mem_nil, or_false] at h
    rcases h with rfl | rfl <;> rw [toNat_toUInt8 (by omega)] <;> omega
  · refine .inr ⟨?_, by omega⟩
    simp only [List.mem_cons, List.not_mem_nil, or_false] at h
    rcases h with rfl | rfl | rfl <;> rw [toNat_toUInt8 (by omega)] <;> omega
  · refine .inr ⟨?_, by omega⟩
    simp only [List.mem_cons, List.not_mem_nil, or_false] at h
    rcases h with rfl | rfl | rfl | rfl <;> rw [toNat_toUInt8 (by omega)] <;> omega

/-! ## Texts -/

/-- Bytes that an earlier character has used are passed over. -/
theorem decodeFrom_skip (offset : Nat) (used rest : List UInt8) :
    decodeFrom offset used.length (used ++ rest) = decodeFrom (offset + used.length) 0 rest := by
  induction used generalizing offset with
  | nil => rfl
  | cons b more ih =>
    rw [List.cons_append, List.length_cons, decodeFrom, ih, Nat.add_assoc, Nat.add_comm 1]

/-- A character is read back from its bytes, and the next one stands behind them. -/
theorem decodeFrom_encodeChar (offset : Nat) (c : Char) (rest : List UInt8) :
    decodeFrom offset 0 (encodeChar c ++ rest) =
      (decodeFrom (offset + width c) 0 rest).map (c :: ·) := by
  obtain ⟨b, more, hbytes, hwidth, hfront⟩ := front_encodeChar c
  rw [hbytes, List.cons_append, decodeFrom, hfront]
  simp only [hwidth, Nat.add_sub_cancel]
  rw [decodeFrom_skip, Nat.add_assoc, Nat.add_comm 1]

/-- A text is read back from its bytes. -/
theorem decodeFrom_encode (offset : Nat) (s : List Char) :
    decodeFrom offset 0 (encode s) = .ok s := by
  induction s generalizing offset with
  | nil => rfl
  | cons c rest ih =>
    rw [encode, List.flatMap_cons, decodeFrom_encodeChar]
    rw [encode] at ih
    rw [ih]
    rfl

/-- A text is read back from its bytes. -/
theorem decode_encode (s : List Char) : decode (encode s) = .ok s := decodeFrom_encode 0 s

/-- Different texts have different bytes. -/
theorem encode_injective : Function.Injective encode := by
  intro s t h
  have hdecoded : decode (encode s) = decode (encode t) := by rw [h]
  rw [decode_encode, decode_encode] at hdecoded
  exact Except.ok.inj hdecoded

/-- A character of ASCII is found among the bytes only where it stands in the text. -/
theorem mem_of_mem_encode {s : List Char} {b : UInt8} (hb : b.toNat < 0x80) (h : b ∈ encode s) :
    ∃ c ∈ s, c.toNat = b.toNat := by
  obtain ⟨c, hc, hbyte⟩ := List.mem_flatMap.mp h
  refine ⟨c, hc, ?_⟩
  rcases byte_of_mem_encodeChar hbyte with heq | ⟨hhigh, -⟩
  · exact heq.symm
  · omega

theorem encode_eq_nil_iff {s : List Char} : encode s = [] ↔ s = [] :=
  ⟨fun h => encode_injective (h.trans rfl), fun h => by rw [h]; rfl⟩

end CertRenewal.Text.Utf8
