import CertRenewal.Certificate.Time
import CertRenewal.Proofs.Certificate.Element
import CertRenewal.Proofs.Expiry.AnnotationDate

/-!
# Times in certificates are read back

A `Second` of the calendar can be written in two forms, `YYMMDDhhmmssZ` in the years 1950 to 2049
and `YYYYMMDDhhmmssZ` in the years 0 to 9999. `read_encode` reads either of them back.
-/

namespace CertRenewal.Certificate

open CertRenewal.Text (paddedDigits digitsOfNat)
open CertRenewal.Text.Utf8 (encode encode_append toNat_toUInt8)

/-- A second of the calendar in UTC, in a year of at most four digits. -/
structure Second extends Expiry.Minute where
  second : Nat
  second_lt : second < 60

namespace Second

/-- The start of the second. The days up to it are counted by the calendar. -/
def instant (s : Second) : Instant := .ofSeconds (s.toMinute.instant.seconds + s.second)

theorem instant_eq_ofCivil (s : Second) :
    s.instant = .ofCivil ⟨s.year, s.month, s.day⟩ s.hour s.minute s.second := by
  rw [instant, s.toMinute.instant_eq_ofCivil, Instant.ofCivil, Instant.ofCivil, Nat.cast_zero,
    Int.add_zero]
  rfl

/-- What follows the year: `MMDDhhmmss`. -/
def digits (s : Second) : List Char :=
  paddedDigits 2 s.month ++ paddedDigits 2 s.day ++ paddedDigits 2 s.hour ++
    paddedDigits 2 s.minute ++ paddedDigits 2 s.second

end Second

/-- A second in one of the two forms. -/
inductive Moment where
  | utc (second : Second) (year_ge : 1950 ≤ second.year) (year_lt : second.year < 2050)
  | generalized (second : Second)

namespace Moment

def second : Moment → Second
  | .utc s _ _ => s
  | .generalized s => s

def text : Moment → List Char
  | .utc s _ _ => paddedDigits 2 (s.year % 100) ++ s.digits ++ ['Z']
  | .generalized s => paddedDigits 4 s.year ++ s.digits ++ ['Z']

def tag : Moment → UInt8
  | .utc _ _ _ => 0x17
  | .generalized _ => 0x18

def der (m : Moment) : List UInt8 := Der.encode [m.tag] (encode m.text)

end Moment

namespace Time

/-! ## Fields -/

theorem twoDigits_append {bytes : List UInt8} {n : Nat} (h : twoDigits bytes = some (n, []))
    (rest : List UInt8) : twoDigits (bytes ++ rest) = some (n, rest) := by
  unfold twoDigits at h
  split at h
  · next a b more =>
    simp only [Option.bind_eq_bind, Option.bind_eq_some_iff, Option.pure_def, Option.some.injEq,
      Prod.mk.injEq] at h
    obtain ⟨tens, htens, ones, hones, hn, rfl⟩ := h
    simp [twoDigits, htens, hones, hn]
  · cases h

/-- A field that can be read has two bytes. -/
theorem two_le_length_of_twoDigits {bytes : List UInt8} {x : Nat × List UInt8}
    (h : twoDigits bytes = some x) : ¬ bytes.length < 2 := by
  unfold twoDigits at h
  split at h
  · simp
  · cases h

/-- A number below one hundred is a field. -/
theorem twoDigits_paddedDigits {n : Nat} (h : n < 100) (rest : List UInt8) :
    twoDigits (encode (paddedDigits 2 n) ++ rest) = some (n, rest) := by
  have hall : ∀ n : Fin 100, twoDigits (encode (paddedDigits 2 n)) = some (n.val, []) := by
    decide +kernel
  exact twoDigits_append (hall ⟨n, h⟩) rest

theorem exists?_second (s : Second) :
    Fields.exists? ⟨⟨s.year, s.month, s.day⟩, s.hour, s.minute, s.second⟩ = true := by
  have hhour := s.hour_lt
  have hminute := s.minute_lt
  have hsecond := s.second_lt
  simp only [Fields.exists?, s.date_exists, Bool.and_eq_true, decide_eq_true_eq, true_and]
  omega

/-- The fields behind the year are read back, and nothing behind them is touched. -/
theorem fieldsAfterYear_digits (s : Second) (rest : List UInt8) :
    fieldsAfterYear s.year (encode s.digits ++ rest) =
      some (⟨⟨s.year, s.month, s.day⟩, s.hour, s.minute, s.second⟩, rest) := by
  obtain ⟨-, hmonth⟩ := s.month_range
  obtain ⟨-, hday⟩ := s.day_range
  have hhour := s.hour_lt
  have hminute := s.minute_lt
  have hsecond : twoDigits (encode (paddedDigits 2 s.second) ++ rest) = some (s.second, rest) :=
    twoDigits_paddedDigits (Nat.lt_trans s.second_lt (by decide)) rest
  simp only [Second.digits, encode_append, List.append_assoc, fieldsAfterYear,
    Option.bind_eq_bind, Option.bind_some, twoDigits_paddedDigits (show s.month < 100 by omega),
    twoDigits_paddedDigits (show s.day < 100 by omega),
    twoDigits_paddedDigits (show s.hour < 100 by omega),
    twoDigits_paddedDigits (show s.minute < 100 by omega),
    if_neg (two_le_length_of_twoDigits hsecond), hsecond, exists?_second, if_true]

/-! ## The two forms -/

/-- In the first form two digits tell a year from 1950 to 2049. -/
theorem utc_text {s : Second} (hleast : 1950 ≤ s.year) (hlast : s.year < 2050) :
    utc (encode (paddedDigits 2 (s.year % 100) ++ s.digits ++ ['Z'])) =
      some s.instant.seconds := by
  have hyear : fullYear (s.year % 100) = s.year := by
    unfold fullYear
    split <;> omega
  have hzone : zone (encode ['Z']) = some 0 := by decide
  have hdigits := fieldsAfterYear_digits s (encode ['Z'])
  simp only [utc, encode_append, List.append_assoc, Option.bind_eq_bind, Option.bind_some,
    twoDigits_paddedDigits (Nat.mod_lt s.year (by decide : 0 < 100)), hyear, hdigits, hzone,
    Option.pure_def]
  rw [s.instant_eq_ofCivil, Fields.seconds, Int.sub_zero]

/-- Four digits are a century and a year of it. -/
theorem paddedDigits_four (n : Nat) :
    paddedDigits 4 n = paddedDigits 2 (n / 100) ++ paddedDigits 2 (n % 100) := by
  have htens : n / 10 % 10 = n % 100 / 10 := by omega
  have hones : n % 10 = n % 100 % 10 := by omega
  rw [Text.paddedDigits_succ (by decide) n, Text.paddedDigits_succ (by decide) (n / 10),
    Text.paddedDigits_succ (by decide) (n % 100), Text.paddedDigits_one, Nat.div_div_eq_div_mul,
    htens, hones, List.append_assoc]

/-- In the second form the year has all of its digits. -/
theorem generalized_text (s : Second) :
    generalized (encode (paddedDigits 4 s.year ++ s.digits ++ ['Z'])) =
      some s.instant.seconds := by
  have hle := s.year_le
  have hyear : ((s.year / 100 : Nat) : Int) * 100 + (s.year % 100 : Nat) = s.year := by omega
  have hend : dropFraction (encode ['Z']) = [90] := by decide
  have hdigits := fieldsAfterYear_digits s (encode ['Z'])
  simp only [generalized, paddedDigits_four, encode_append, List.append_assoc, Option.bind_eq_bind,
    Option.bind_some, twoDigits_paddedDigits (show s.year / 100 < 100 by omega),
    twoDigits_paddedDigits (Nat.mod_lt s.year (by decide : 0 < 100)), hyear, hdigits, hend, if_true]
  rw [s.instant_eq_ofCivil, Fields.seconds]

/-! ## Elements -/

/-- Visible characters are written as visible bytes. -/
theorem isVisible_encode {s : List Char} (h : ∀ c ∈ s, 0x20 ≤ c.toNat ∧ c.toNat < 0x7F) :
    isVisible (encode s) = true := by
  rw [isVisible, encode, List.all_flatMap, List.all_eq_true]
  intro c hc
  obtain ⟨hleast, hlast⟩ := h c hc
  have hbyte := toNat_toUInt8 (show c.toNat < 256 by omega)
  simp only [Text.Utf8.encodeChar, if_pos (show c.toNat < 0x80 by omega), List.all_cons,
    List.all_nil, Bool.and_true, Bool.and_eq_true, decide_eq_true_eq, UInt8.le_iff_toNat_le, hbyte]
  exact ⟨hleast, Nat.le_of_lt hlast⟩

theorem isVisible_text (m : Moment) : isVisible (encode m.text) = true := by
  have hdigit : ∀ width n, ∀ c ∈ paddedDigits width n, 0x20 ≤ c.toNat ∧ c.toNat < 0x7F := by
    intro width n c hc
    have hrange : 48 ≤ c.toNat ∧ c.toNat ≤ 57 :=
      Char.isDigit_iff_toNat.mp (Text.charIsDigit_of_mem_paddedDigits hc)
    omega
  have hzone : ∀ c ∈ ['Z'], 0x20 ≤ c.toNat ∧ c.toNat < 0x7F :=
    List.forall_mem_singleton.mpr (by decide)
  have hdigits : ∀ s : Second, ∀ c ∈ s.digits, 0x20 ≤ c.toNat ∧ c.toNat < 0x7F := by
    intro s
    simp only [Second.digits, List.forall_mem_append]
    exact ⟨⟨⟨⟨hdigit _ _, hdigit _ _⟩, hdigit _ _⟩, hdigit _ _⟩, hdigit _ _⟩
  refine isVisible_encode ?_
  cases m with
  | utc s hleast hlast =>
    simp only [Moment.text, List.forall_mem_append]
    exact ⟨⟨hdigit _ _, hdigits s⟩, hzone⟩
  | generalized s =>
    simp only [Moment.text, List.forall_mem_append]
    exact ⟨⟨hdigit _ _, hdigits s⟩, hzone⟩

/-- The tag of an element tells the form of its time. -/
theorem ofElement_text (m : Moment) :
    ofElement (Der.elementOf m.tag (encode m.text)) = some m.second.instant.seconds := by
  rw [ofElement, Der.elementOf, if_pos (isVisible_text m)]
  cases m with
  | utc s hleast hlast => exact utc_text hleast hlast
  | generalized s => exact generalized_text s

/-- A time is read back, and what follows it is left. -/
theorem read_encode (m : Moment) (hfits : Der.Fits m.der) (rest : List UInt8) :
    read (m.der ++ rest) = .ok (m.second.instant.seconds, rest) := by
  have hshort : m.tag.toNat % 32 ≠ 31 := by cases m <;> simp [Moment.tag]
  rw [read, Moment.der, Der.element_encode hshort hfits]
  simp only [ofElement_text]

end Time

end CertRenewal.Certificate
