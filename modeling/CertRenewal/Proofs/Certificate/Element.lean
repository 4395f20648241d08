import CertRenewal.Certificate.Der
import CertRenewal.Proofs.Text.Utf8
import Mathlib.Data.Nat.Digits.Lemmas

/-!
# Writing DER elements

`encode` writes an element: the bytes of its tag, the length of its content in the definite form, in
as few bytes as it takes, and the content. `element_encode` reads an element back from bytes that
begin with it. A length that is read must fit 64 bits, which is what `Fits` says of bytes; it holds
of the parts of bytes of which it holds.
-/

namespace CertRenewal.Certificate.Der

open Text.Utf8 (toNat_toUInt8 toUInt8_lt_iff toUInt8_eq_iff)

/-! ## Lengths -/

/-- The bytes of a number, the most significant one first and no more than it takes. -/
def bytesOfNat (n : Nat) : List UInt8 := (Nat.digits 256 n).reverse.map Nat.toUInt8

theorem natOfBytes_bytesOfNat (n : Nat) : natOfBytes (bytesOfNat n) = n := by
  have hbyte : ∀ d ∈ Nat.digits 256 n, ∀ m, m * 256 + d.toUInt8.toNat = d + 256 * m := by
    intro d hd m
    rw [toNat_toUInt8 (Nat.digits_lt_base (by decide) hd)]
    omega
  calc natOfBytes (bytesOfNat n)
      = (Nat.digits 256 n).foldr (fun d m => m * 256 + d.toUInt8.toNat) 0 := by
        rw [natOfBytes, bytesOfNat, List.foldl_map, List.foldl_reverse]
    _ = (Nat.digits 256 n).foldr (fun d m => d + 256 * m) 0 := List.foldr_ext _ _ _ hbyte
    _ = Nat.ofDigits 256 (Nat.digits 256 n) := (Nat.ofDigits_eq_foldr 256 _).symm
    _ = n := Nat.ofDigits_digits 256 n

/-- A number of 64 bits takes eight bytes at most. -/
theorem length_bytesOfNat_le {n : Nat} (h : n < 18446744073709551616) :
    (bytesOfNat n).length ≤ 8 := by
  rw [bytesOfNat, List.length_map, List.length_reverse, Nat.digits_length_le_iff (by decide)]
  exact h

theorem length_bytesOfNat_pos {n : Nat} (h : 0 < n) : 0 < (bytesOfNat n).length := by
  rw [bytesOfNat, List.length_map, List.length_reverse, List.length_pos_iff,
    Nat.digits_ne_nil_iff_ne_zero]
  exact Nat.ne_of_gt h

/-- A length: one byte below 128, or the number of the bytes that hold it and those bytes. -/
def lengthBytes (n : Nat) : List UInt8 :=
  if n < 128 then [n.toUInt8] else (128 + (bytesOfNat n).length).toUInt8 :: bytesOfNat n

/-- A length is read back, in its short form and in its long one. -/
theorem lengthOf_lengthBytes {n : Nat} (h : n < 18446744073709551616) (rest : List UInt8) :
    lengthOf (lengthBytes n ++ rest) = .ok (n, rest) := by
  unfold lengthBytes
  split
  · next hshort =>
    have hlow : n.toUInt8 < 0x80 := (toUInt8_lt_iff (by omega) _).mpr hshort
    rw [List.singleton_append, lengthOf, if_pos hlow, toNat_toUInt8 (by omega)]
  · next hlong =>
    have hvalue := natOfBytes_bytesOfNat n
    have hmost := length_bytesOfNat_le h
    have hleast := length_bytesOfNat_pos (show 0 < n by omega)
    generalize bytesOfNat n = bytes at hvalue hmost hleast
    have hcount : (128 + bytes.length).toUInt8.toNat - 128 = bytes.length := by
      rw [toNat_toUInt8 (by omega), Nat.add_sub_cancel_left]
    -- The number of the bytes is neither that of a short length nor one of the two reserved ones.
    have hhigh : ¬ (128 + bytes.length).toUInt8 < 0x80 :=
      mt (toUInt8_lt_iff (by omega) _).mp (show ¬ 128 + bytes.length < 0x80 by omega)
    have hdefinite : (128 + bytes.length).toUInt8 ≠ 0x80 :=
      mt (toUInt8_eq_iff (by omega) _).mp (show 128 + bytes.length ≠ 0x80 by omega)
    have hreserved : (128 + bytes.length).toUInt8 ≠ 0xFF :=
      mt (toUInt8_eq_iff (by omega) _).mp (show 128 + bytes.length ≠ 0xFF by omega)
    have hthere : ¬ (bytes ++ rest).length < bytes.length := by simp
    rw [List.cons_append, lengthOf, if_neg hhigh, if_neg hdefinite, if_neg hreserved]
    simp only [hcount, if_neg hthere, List.take_left', List.drop_left', hvalue, if_pos h]

/-! ## What fits -/

/-- Bytes whose number fits 64 bits, as that of all bytes in memory does. -/
def Fits (bytes : List UInt8) : Prop := bytes.length < 18446744073709551616

section

variable {bytes more : List UInt8}

/-- Parts of bytes whose number fits do so too. -/
theorem Fits.left (h : Fits (bytes ++ more)) : Fits bytes := by
  unfold Fits at *
  rw [List.length_append] at h
  omega

theorem Fits.right (h : Fits (bytes ++ more)) : Fits more := by
  unfold Fits at *
  rw [List.length_append] at h
  omega

end

/-! ## Elements -/

/-- The bytes of a tag: its number stands in the first byte when it is below 31; otherwise it
follows, seven bits a byte, up to a byte whose high bit is clear. -/
inductive IsIdentifier : List UInt8 → Prop where
  | short {first : UInt8} (hfirst : first.toNat % 32 ≠ 31) : IsIdentifier [first]
  | long {first last : UInt8} {highs : List UInt8} (hfirst : first.toNat % 32 = 31)
      (hhighs : ∀ b ∈ highs, ¬ b < 0x80) (hlast : last < 0x80) :
      IsIdentifier (first :: (highs ++ [last]))

def encode (identifier content : List UInt8) : List UInt8 :=
  identifier ++ (lengthBytes content.length ++ content)

theorem Fits.content {identifier content : List UInt8} (h : Fits (encode identifier content)) :
    Fits content := h.right.right

def elementOf (first : UInt8) (content : List UInt8) : Element :=
  ⟨⟨first.toNat / 64, first.toNat / 32 % 2 = 1, first.toNat % 32, content.length⟩, content⟩

section

variable {first : UInt8} {content : List UInt8}

@[simp] theorem elementOf_content : (elementOf first content).content = content := rfl

/-- A header is read back, and what is left starts with the content. -/
theorem header_encode (hfirst : first.toNat % 32 ≠ 31) (hfits : Fits (encode [first] content))
    (rest : List UInt8) :
    header (encode [first] content ++ rest) =
      .ok ((elementOf first content).header, content ++ rest) := by
  simp only [encode, List.cons_append, List.nil_append, List.append_assoc, header, tagNumber,
    if_neg hfirst]
  simp only [bind, Except.bind, lengthOf_lengthBytes hfits.content]
  rfl

/-- An element is cut off in front of what follows it. -/
theorem element_encode (hfirst : first.toNat % 32 ≠ 31) (hfits : Fits (encode [first] content))
    (rest : List UInt8) :
    element (encode [first] content ++ rest) = .ok (elementOf first content, rest) := by
  have hthere : ¬ (content ++ rest).length < content.length := by simp
  rw [element, header_encode hfirst hfits]
  simp only [bind, Except.bind, elementOf, if_neg hthere, List.take_left', List.drop_left']
  rfl

/-- An element that nothing follows. -/
theorem element_encode_last (hfirst : first.toNat % 32 ≠ 31)
    (hfits : Fits (encode [first] content)) :
    element (encode [first] content) = .ok (elementOf first content, []) := by
  have hread := element_encode hfirst hfits []
  rwa [List.append_nil] at hread

theorem sequence_encode (hfits : Fits (encode [0x30] content)) (rest : List UInt8) :
    sequence (encode [0x30] content ++ rest) = .ok (content, rest) := by
  rw [sequence, element_encode (by decide) hfits]
  rfl

theorem sequence_encode_last (hfits : Fits (encode [0x30] content)) :
    sequence (encode [0x30] content) = .ok (content, []) := by
  rw [sequence, element_encode_last (by decide) hfits]
  rfl

end

/-! ## Tags of any size -/

/-- The bytes of a long tag are read up to the last, unless there are too many. -/
theorem longTag_append {highs : List UInt8} {last : UInt8} (hhighs : ∀ b ∈ highs, ¬ b < 0x80)
    (hlast : last < 0x80) (count tag : Nat) (rest : List UInt8) :
    (∃ e, longTag count tag (highs ++ last :: rest) = .error e) ∨
      ∃ n, longTag count tag (highs ++ last :: rest) = .ok (n, rest) := by
  induction highs generalizing count tag with
  | nil =>
    rw [List.nil_append, longTag]
    split
    · exact .inl ⟨_, rfl⟩
    · exact .inr ⟨_, rfl⟩
  | cons b highs ih =>
    obtain ⟨hb, hhighs⟩ := List.forall_mem_cons.mp hhighs
    rw [List.cons_append, longTag]
    split
    · exact .inl ⟨_, rfl⟩
    · exact ih hhighs _ _

/-- The header of an element with any tag is read up to the content, unless its tag is too long. -/
theorem header_encode_cases {identifier content : List UInt8}
    (hidentifier : IsIdentifier identifier) (hfits : Fits (encode identifier content))
    (rest : List UInt8) :
    (∃ e, header (encode identifier content ++ rest) = .error e) ∨
      ∃ h, header (encode identifier content ++ rest) = .ok (h, content ++ rest) ∧
        h.length = content.length := by
  cases hidentifier with
  | short hfirst => exact .inr ⟨_, header_encode hfirst hfits rest, rfl⟩
  | @long first last highs hfirst hhighs hlast =>
    simp only [encode, List.cons_append, List.nil_append, List.append_assoc, header, tagNumber,
      if_pos hfirst]
    rcases longTag_append hhighs hlast 0 0 (lengthBytes content.length ++ (content ++ rest)) with
      ⟨e, herror⟩ | ⟨n, hread⟩
    · rw [herror]
      exact .inl ⟨e, rfl⟩
    · rw [hread]
      simp only [bind, Except.bind, lengthOf_lengthBytes hfits.content]
      exact .inr ⟨_, rfl, rfl⟩

/-- An element whose header can be read is cut off, whatever its tag is. -/
theorem exists_element_encode {identifier content : List UInt8}
    (hidentifier : IsIdentifier identifier) (hfits : Fits (encode identifier content))
    (rest : List UInt8) (hread : (header (encode identifier content ++ rest)).isOk = true) :
    ∃ e, element (encode identifier content ++ rest) = .ok (e, rest) := by
  rcases header_encode_cases hidentifier hfits rest with ⟨e, herror⟩ | ⟨h, hheader, hlength⟩
  · rw [herror] at hread
    cases hread
  · have hthere : ¬ (content ++ rest).length < content.length := by simp
    rw [element, hheader]
    simp only [bind, Except.bind, hlength, if_neg hthere, List.take_left', List.drop_left']
    exact ⟨_, rfl⟩

/-! ## Bit strings -/

/-- A bit string: bytes, of whose last one so many bits, which are zero, are not used. -/
structure BitString where
  bytes : List UInt8
  unused : Nat
  unused_le : unused ≤ 7
  unused_eq_zero : bytes = [] → unused = 0
  unused_zeros : 2 ^ unused ∣ (bytes.getLastD 0).toNat

def BitString.content (s : BitString) : List UInt8 := s.unused.toUInt8 :: s.bytes

/-- A byte that a power of two divides ends with at least as many zeros. -/
theorem le_trailingZeros {b : UInt8} {n : Nat} (hn : n ≤ 8) (h : 2 ^ n ∣ b.toNat) :
    n ≤ trailingZeros b := by
  unfold trailingZeros
  cases hfind : (List.range 8).find? fun i => b.toNat / Nat.pow 2 i % 2 = 1 with
  | none => exact hn
  | some i =>
    have hone : b.toNat / 2 ^ i % 2 = 1 := by simpa using List.find?_some hfind
    by_contra hlt
    -- A bit below the unused ones would be set.
    obtain ⟨k, hk⟩ : 2 ^ (i + 1) ∣ b.toNat :=
      (Nat.pow_dvd_pow 2 (show i + 1 ≤ n by simpa using hlt)).trans h
    rw [hk, Nat.pow_succ, Nat.mul_assoc, Nat.mul_div_cancel_left _ (Nat.two_pow_pos i)] at hone
    omega

/-- A bit string of the layout keeps its unused bits clear, as the reader demands. -/
theorem checkBits_content (s : BitString) {first : UInt8} (hprimitive : first.toNat / 32 % 2 = 0) :
    checkBits (elementOf first s.content) = .ok () := by
  have hconstructed : decide (first.toNat / 32 % 2 = 1) = false := by simp [hprimitive]
  have hle := s.unused_le
  simp only [checkBits, elementOf, hconstructed, BitString.content, Bool.false_eq_true, if_false]
  cases hbytes : s.bytes with
  | nil =>
    rw [s.unused_eq_zero hbytes]
    rfl
  | cons b bytes =>
    have hzeros := le_trailingZeros (Nat.le_succ_of_le hle) s.unused_zeros
    rw [hbytes] at hzeros
    dsimp only
    rw [toNat_toUInt8 (by omega), if_neg (Nat.not_lt.mpr hzeros)]

theorem bitString_encode (s : BitString) (hfits : Fits (encode [0x03] s.content))
    (rest : List UInt8) :
    bitString (encode [0x03] s.content ++ rest) = .ok rest := by
  have hcheck : checkBits (elementOf 0x03 s.content) = .ok () := checkBits_content s (by decide)
  rw [bitString, element_encode (by decide) hfits]
  simp only [bind, Except.bind, hcheck]
  rfl

end CertRenewal.Certificate.Der
