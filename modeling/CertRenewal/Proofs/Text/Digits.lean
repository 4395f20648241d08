import CertRenewal.Text.Blank
import CertRenewal.Text.Integer
import Mathlib.Algebra.Ring.Nat
import Mathlib.Data.List.Basic

/-!
# Decimal digits are read back

`natOfDigits_paddedDigits` reads a number back from its digits, however many zeros stand before
them. `paddedDigits_append_inj` does so where the digits stand before something else: they end at
the first character that is no digit.
-/

namespace CertRenewal.Text

theorem digit?_of_isDigit {c : Char} (h : c.isDigit = true) :
    digit? c = some (c.toNat - '0'.toNat) := by
  obtain ⟨hlow, hhigh⟩ := Char.isDigit_iff_toNat.mp h
  rw [digit?, if_pos]
  exact ⟨hlow, hhigh⟩

/-- The ten digits stand together, in their order. -/
theorem digit?_eq_some_iff {c : Char} {d : Nat} :
    digit? c = some d ↔ 48 ≤ c.toNat ∧ c.toNat ≤ 57 ∧ d = c.toNat - 48 := by
  have hrange : ('0' ≤ c ∧ c ≤ '9') ↔ 48 ≤ c.toNat ∧ c.toNat ≤ 57 := Iff.rfl
  rw [digit?]
  split
  · next h => simp [hrange.mp h, eq_comm]
  · next h => exact ⟨fun hd => (nomatch hd), fun hd => absurd ⟨hd.1, hd.2.1⟩ (mt hrange.mpr h)⟩

/-- No digit is blank. -/
theorem isBlank_of_isDigit {c : Char} (h : isDigit c = true) : isBlank c = false := by
  obtain ⟨d, hd⟩ := Option.isSome_iff_exists.mp h
  obtain ⟨hlow, hhigh, -⟩ := digit?_eq_some_iff.mp hd
  simp only [isBlank, Bool.or_eq_false_iff, Bool.and_eq_false_iff, decide_eq_false_iff_not,
    beq_eq_false_iff_ne]
  omega

theorem isDigit_of_charIsDigit {c : Char} (h : c.isDigit = true) : isDigit c = true := by
  rw [isDigit, digit?_of_isDigit h]
  rfl

/-- On digits the number is the one that the library reads. -/
theorem natOfDigits_eq_ofDigitChars {s : List Char} (h : ∀ c ∈ s, c.isDigit = true) :
    natOfDigits s = Nat.ofDigitChars 10 s 0 := by
  rw [natOfDigits, Nat.ofDigitChars_eq_foldl]
  refine List.foldl_ext _ _ _ fun n c hc => ?_
  rw [digit?_of_isDigit (h c hc), Option.getD_some, Nat.mul_comm]

theorem charIsDigit_of_mem_paddedDigits {width n : Nat} {c : Char}
    (h : c ∈ paddedDigits width n) : c.isDigit = true := by
  rcases List.mem_append.mp h with hzero | hdigit
  · obtain ⟨_, rfl⟩ := List.mem_replicate.mp hzero
    rfl
  · exact Nat.isDigit_of_mem_toDigits (by decide) (by decide) hdigit

/-- The text of a number is made of digits. -/
theorem isDigit_of_mem_paddedDigits {width n : Nat} {c : Char} (h : c ∈ paddedDigits width n) :
    isDigit c = true :=
  isDigit_of_charIsDigit (charIsDigit_of_mem_paddedDigits h)

/-- A number is read back from its digits. -/
theorem natOfDigits_paddedDigits (width n : Nat) : natOfDigits (paddedDigits width n) = n := by
  rw [natOfDigits_eq_ofDigitChars fun c => charIsDigit_of_mem_paddedDigits, paddedDigits,
    digitsOfNat, Nat.ofDigitChars_append, Nat.ofDigitChars_replicate_zero, Nat.mul_zero]
  exact Nat.ofDigitChars_toDigits (by decide) (by decide)

theorem paddedDigits_ne_nil (width n : Nat) : paddedDigits width n ≠ [] :=
  List.append_ne_nil_of_right_ne_nil _ Nat.toDigits_ne_nil

/-- A number starts with a digit. -/
theorem paddedDigits_eq_cons (width n : Nat) :
    ∃ c cs d, paddedDigits width n = c :: cs ∧ digit? c = some d := by
  obtain ⟨c, cs, hcons⟩ := List.exists_cons_of_ne_nil (paddedDigits_ne_nil width n)
  have hc : isDigit c = true :=
    isDigit_of_mem_paddedDigits (show c ∈ paddedDigits width n from hcons ▸ List.mem_cons_self)
  obtain ⟨d, hd⟩ := Option.isSome_iff_exists.mp hc
  exact ⟨c, cs, d, hcons, hd⟩

/-- A number that has no more digits than the width is written with as many characters. -/
theorem length_paddedDigits {width n : Nat} (hwidth : 0 < width) (h : n < 10 ^ width) :
    (paddedDigits width n).length = width := by
  have hlength : (digitsOfNat n).length ≤ width :=
    (Nat.length_toDigits_le_iff (by decide) hwidth).mpr h
  simp only [paddedDigits, List.length_append, List.length_replicate]
  omega

theorem paddedDigits_one (n : Nat) : paddedDigits 1 n = digitsOfNat n := by
  have hlength : 0 < (digitsOfNat n).length := List.length_pos_iff.mpr Nat.toDigits_ne_nil
  have hfull : 1 - (digitsOfNat n).length = 0 := by omega
  simp [paddedDigits, hfull]

/-- The last digit stands behind those of the rest of the number. -/
theorem paddedDigits_succ {width : Nat} (hwidth : 0 < width) (n : Nat) :
    paddedDigits (width + 1) n = paddedDigits width (n / 10) ++ digitsOfNat (n % 10) := by
  by_cases hn : n < 10
  · -- The rest is zero, whose digit takes the place of one that fills up the width.
    obtain ⟨width, rfl⟩ := Nat.exists_eq_succ_of_ne_zero (Nat.ne_of_gt hwidth)
    have hlength : (digitsOfNat n).length = 1 := by
      rw [digitsOfNat, Nat.toDigits_of_lt_base hn, List.length_singleton]
    have hzero : digitsOfNat 0 = ['0'] := rfl
    simp [paddedDigits, Nat.div_eq_of_lt hn, Nat.mod_eq_of_lt hn, hlength, hzero,
      List.replicate_succ']
  · have hdigits : digitsOfNat n = digitsOfNat (n / 10) ++ digitsOfNat (n % 10) := by
      have hsplit := Nat.toDigits_append_toDigits (b := 10) (n := n / 10) (d := n % 10)
        (by decide) (by omega) (by omega)
      rw [Nat.div_add_mod] at hsplit
      exact hsplit.symm
    have hlength : (digitsOfNat (n % 10)).length = 1 := by
      rw [digitsOfNat, Nat.toDigits_of_lt_base (by omega), List.length_singleton]
    simp [paddedDigits, hdigits, hlength]

/-- What holds of all characters of a text, and not of the one that follows it, tells where it
ends. -/
theorem append_cons_inj {p : Char → Bool} {s t u v : List Char} {a b : Char}
    (hs : ∀ c ∈ s, p c = true) (ht : ∀ c ∈ t, p c = true) (ha : p a = false) (hb : p b = false)
    (h : s ++ a :: u = t ++ b :: v) : s = t ∧ a :: u = b :: v := by
  have htaken : s = t := by
    calc s = (s ++ a :: u).takeWhile p := by
            rw [List.takeWhile_append_of_pos hs, List.takeWhile_cons_of_neg (by simp [ha]),
              List.append_nil]
      _ = (t ++ b :: v).takeWhile p := by rw [h]
      _ = t := by
            rw [List.takeWhile_append_of_pos ht, List.takeWhile_cons_of_neg (by simp [hb]),
              List.append_nil]
  subst htaken
  exact ⟨rfl, List.append_cancel_left h⟩

/-- Digits tell the number, and where they end. -/
theorem paddedDigits_append_inj {width m n : Nat} {u v : List Char} {a b : Char}
    (ha : isDigit a = false) (hb : isDigit b = false)
    (h : paddedDigits width m ++ a :: u = paddedDigits width n ++ b :: v) :
    m = n ∧ a :: u = b :: v := by
  obtain ⟨hdigits, hrest⟩ := append_cons_inj (fun c => isDigit_of_mem_paddedDigits)
    (fun c => isDigit_of_mem_paddedDigits) ha hb h
  refine ⟨?_, hrest⟩
  rw [← natOfDigits_paddedDigits width m, hdigits, natOfDigits_paddedDigits]

end CertRenewal.Text
