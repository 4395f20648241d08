import CertRenewal.Base64
import Mathlib.Data.List.Basic

/-!
# Bytes are read back from base64

Three bytes are four symbols of six bits, and `threeBytes_eq` takes them apart again; one or two
bytes at the end leave bits over, which are zero. `decodeGroups_encode` puts the groups together.
-/

namespace CertRenewal.Base64

/-! ## Symbols -/

/-- A symbol is read as the six bits that it was written for. -/
theorem value?_symbol {v : Nat} (h : v < 64) : value? (symbol v) = some v := by
  have hall : ∀ v : Fin 64, value? (symbol v) = some v.val := by decide
  exact hall ⟨v, h⟩

theorem symbol_ne_pad {v : Nat} (h : v < 64) : symbol v ≠ pad := by
  have hall : ∀ v : Fin 64, symbol v ≠ pad := by decide
  exact hall ⟨v, h⟩

/-- A symbol of the alphabet, or padding. -/
def IsSymbol (b : UInt8) : Prop := (∃ v < 64, b = symbol v) ∨ b = pad

theorem isSymbol_symbol {v : Nat} (h : v < 64) : IsSymbol (symbol v) := .inl ⟨v, h, rfl⟩

/-- The codes among which those of all symbols are. No blank and no dash is among them. -/
def SymbolCode (n : Nat) : Prop := 43 ≤ n ∧ n ≤ 122 ∧ n ≠ 45

instance (n : Nat) : Decidable (SymbolCode n) := inferInstanceAs (Decidable (_ ∧ _))

theorem symbolCode_of_isSymbol {b : UInt8} (h : IsSymbol b) : SymbolCode b.toNat := by
  have hall : ∀ v : Fin 64, SymbolCode (symbol v).toNat := by decide
  rcases h with ⟨v, hv, rfl⟩ | rfl
  · exact hall ⟨v, hv⟩
  · decide

/-- Nothing but symbols and padding is written. -/
theorem isSymbol_of_mem_encode {bytes : List UInt8} {b : UInt8} (h : b ∈ encode bytes) :
    IsSymbol b := by
  fun_induction encode bytes with
  | case1 => exact absurd h List.not_mem_nil
  | case2 x =>
    have hx := x.toNat_lt
    simp only [List.mem_cons, List.not_mem_nil, or_false] at h
    rcases h with rfl | rfl | rfl | rfl
    · exact isSymbol_symbol (by omega)
    · exact isSymbol_symbol (by omega)
    · exact .inr rfl
    · exact .inr rfl
  | case3 x y =>
    have hx := x.toNat_lt
    have hy := y.toNat_lt
    simp only [List.mem_cons, List.not_mem_nil, or_false] at h
    rcases h with rfl | rfl | rfl | rfl
    · exact isSymbol_symbol (by omega)
    · exact isSymbol_symbol (by omega)
    · exact isSymbol_symbol (by omega)
    · exact .inr rfl
  | case4 x y z rest ih =>
    have hx := x.toNat_lt
    have hy := y.toNat_lt
    have hz := z.toNat_lt
    simp only [List.mem_cons] at h
    rcases h with rfl | rfl | rfl | rfl | hrest
    · exact isSymbol_symbol (by omega)
    · exact isSymbol_symbol (by omega)
    · exact isSymbol_symbol (by omega)
    · exact isSymbol_symbol (by omega)
    · exact ih hrest

/-! ## Groups -/

section

variable {v w x y : Nat}

/-- Four symbols are read as three bytes, however their bits are spread over them. -/
theorem group?_symbols (hv : v < 64) (hw : w < 64) (hx : x < 64) (hy : y < 64) :
    group? (symbol v) (symbol w) (symbol x) (symbol y) = some (threeBytes v w x y) := by
  simp [group?, value?_symbol hv, value?_symbol hw, value?_symbol hx, value?_symbol hy,
    symbol_ne_pad hx, symbol_ne_pad hy]

/-- With one padding symbol two bits are left over. -/
theorem group?_pad (hv : v < 64) (hw : w < 64) (hx : x < 64) (hunused : x % 4 = 0) :
    group? (symbol v) (symbol w) (symbol x) pad = some (twoBytes v w x) := by
  simp [group?, value?_symbol hv, value?_symbol hw, value?_symbol hx, symbol_ne_pad hx, hunused]

/-- With two padding symbols four bits are left over. -/
theorem group?_pad_pad (hv : v < 64) (hw : w < 64) (hunused : w % 16 = 0) :
    group? (symbol v) (symbol w) pad pad = some (oneByte v w) := by
  simp [group?, value?_symbol hv, value?_symbol hw, hunused]

end

/-! ## Bytes -/

theorem toUInt8_eq {n : Nat} {b : UInt8} (h : n = b.toNat) : n.toUInt8 = b := by
  rw [h, Nat.toUInt8, UInt8.ofNat_toNat]

theorem oneByte_eq (a : UInt8) : oneByte (a.toNat / 4) (a.toNat % 4 * 16) = [a] := by
  unfold oneByte
  rw [toUInt8_eq (b := a) (by omega)]

theorem twoBytes_eq (a b : UInt8) :
    twoBytes (a.toNat / 4) (a.toNat % 4 * 16 + b.toNat / 16) (b.toNat % 16 * 4) = [a, b] := by
  have ha := a.toNat_lt
  have hb := b.toNat_lt
  unfold twoBytes
  rw [toUInt8_eq (b := a) (by omega), toUInt8_eq (b := b) (by omega)]

theorem threeBytes_eq (a b c : UInt8) :
    threeBytes (a.toNat / 4) (a.toNat % 4 * 16 + b.toNat / 16) (b.toNat % 16 * 4 + c.toNat / 64)
      (c.toNat % 64) = [a, b, c] := by
  have ha := a.toNat_lt
  have hb := b.toNat_lt
  have hc := c.toNat_lt
  unfold threeBytes
  rw [toUInt8_eq (b := a) (by omega), toUInt8_eq (b := b) (by omega),
    toUInt8_eq (b := c) (by omega)]

/-- Bytes are read back from their symbols. -/
theorem decodeGroups_encode (bytes : List UInt8) : decodeGroups (encode bytes) = some bytes := by
  fun_induction encode bytes with
  | case1 => rfl
  | case2 a =>
    have ha := a.toNat_lt
    rw [decodeGroups, group?_pad_pad (by omega) (by omega) (by omega), oneByte_eq]
    rfl
  | case3 a b =>
    have ha := a.toNat_lt
    have hb := b.toNat_lt
    rw [decodeGroups, group?_pad (by omega) (by omega) (by omega) (by omega), twoBytes_eq]
    rfl
  | case4 a b c rest ih =>
    have ha := a.toNat_lt
    have hb := b.toNat_lt
    have hc := c.toNat_lt
    rw [decodeGroups, group?_symbols (by omega) (by omega) (by omega) (by omega), threeBytes_eq,
      ih]
    rfl

/-- Symbols are no fewer than the bytes. -/
theorem length_le_length_encode (bytes : List UInt8) :
    bytes.length ≤ (encode bytes).length := by
  fun_induction encode bytes with
  | case1 => exact Nat.le_refl 0
  | case2 => simp
  | case3 => simp
  | case4 x y z rest ih =>
    simp only [List.length_cons]
    omega

end CertRenewal.Base64
