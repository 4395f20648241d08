import CertRenewal.Proofs.Base64
import CertRenewal.Proofs.Certificate.Layout
import CertRenewal.Proofs.Certificate.Range
import CertRenewal.Proofs.Text.Pieces

/-!
# The expiry date of a certificate in PEM armour

`Armour` is how bytes stand in a PEM text: the lines before them, the label, the lines that their
base64 symbols are broken into, carriage returns at the ends of lines, and whatever follows.
`Pem.read_text` takes the bytes out again. With what is known of the encoding of a certificate this
gives `certificateExpiry_text`: the date that is read is the one that was written.
-/

namespace CertRenewal

namespace Certificate

open CertRenewal.Text.Utf8 (encode encode_append)

/-- A carriage return may stand at the end of a line. -/
def ending (hasReturn : Bool) : List Char := if hasReturn then ['\r'] else []

def lineBytes (line : List Char) : List UInt8 := encode line ++ [10]

/-- How bytes stand in a PEM text. -/
structure Armour (bytes : List UInt8) where
  /-- The lines in front of the block; none of them starts one. -/
  before : List (List Char)
  label : List Char
  beginReturn : Bool
  /-- The symbols of each line of the block. -/
  body : List (List Char × Bool)
  endReturn : Bool
  /-- What follows the block, which need not be text. -/
  after : List UInt8
  before_lines : ∀ line ∈ before, '\n' ∉ line ∧ ¬ Pem.beginMark <+: line
  label_line : '\n' ∉ label
  body_symbols : encode (body.flatMap Prod.fst) = Base64.encode bytes

namespace Armour

variable {bytes : List UInt8} (a : Armour bytes)

def beginLine : List Char :=
  "-----BEGIN ".toList ++ (a.label ++ ("-----".toList ++ ending a.beginReturn))

def endLine : List Char :=
  "-----END ".toList ++ (a.label ++ ("-----".toList ++ ending a.endReturn))

def text : List UInt8 :=
  a.before.flatMap lineBytes ++ (lineBytes a.beginLine ++
    (a.body.flatMap (fun l => lineBytes (l.1 ++ ending l.2)) ++ (lineBytes a.endLine ++ a.after)))

end Armour

namespace Pem

/-! ## Lines -/

/-- A line ends at its first line feed. -/
theorem lines_append {line : List UInt8} (h : 10 ∉ line) (rest : List UInt8) :
    lines (line ++ 10 :: rest) = line :: lines rest := by
  induction line with
  | nil => simp [lines]
  | cons b line ih =>
    obtain ⟨hb, hline⟩ := not_or.mp (mt List.mem_cons.mpr h)
    have hmore : line ++ 10 :: rest ≠ [] :=
      List.append_ne_nil_of_right_ne_nil _ (List.cons_ne_nil _ _)
    rw [List.cons_append, lines, if_neg (Ne.symm hb), ih hline]
    · rfl
    · exact hmore

/-- A line of text is cut off, and read as text. -/
theorem lines_lineBytes {line : List Char} (h : '\n' ∉ line) (rest : List UInt8) :
    lines (lineBytes line ++ rest) = encode line :: lines rest := by
  have hfeed : 10 ∉ encode line := by
    intro hmem
    obtain ⟨c, hc, hcode⟩ := Text.Utf8.mem_of_mem_encode (by decide) hmem
    have hnewline : c = '\n' := Char.toNat_inj.mp hcode
    exact h (hnewline ▸ hc)
  rw [lineBytes, List.append_assoc]
  exact lines_append hfeed rest

theorem lineText_encode (line : List Char) : lineText (encode line) = .ok line := by
  rw [lineText, Text.Utf8.decode_encode]

theorem newline_not_mem_ending (hasReturn : Bool) : '\n' ∉ ending hasReturn := by
  cases hasReturn <;> decide

/-! ## In front of the block -/

/-- Lines in front of the block are passed over, whatever they hold. -/
theorem readLines_before {before : List (List Char)}
    (h : ∀ line ∈ before, '\n' ∉ line ∧ ¬ beginMark <+: line) (rest : List UInt8) :
    readLines (lines (before.flatMap lineBytes ++ rest)) = readLines (lines rest) := by
  induction before with
  | nil => rfl
  | cons line before ih =>
    obtain ⟨⟨hline, hmark⟩, hbefore⟩ := List.forall_mem_cons.mp h
    have hother : ¬ beginMark.isPrefixOf line = true := mt List.isPrefixOf_iff_prefix.mp hmark
    rw [List.flatMap_cons, List.append_assoc, lines_lineBytes hline, readLines, lineText_encode]
    simp only [bind, Except.bind, if_neg hother]
    exact ih hbefore

section

variable {bytes : List UInt8} (a : Armour bytes)

/-- The line that begins the block has dashes at both ends, and so three pieces at least. -/
theorem three_le_length_splitOn :
    ¬ (Text.splitOn "-----".toList a.beginLine).length < 3 := by
  have hstart : a.beginLine =
      '-' :: ['-', '-', '-', '-'] ++ ("BEGIN ".toList ++ a.label ++
        ('-' :: ['-', '-', '-', '-'] ++ ending a.beginReturn)) := rfl
  have hdashes : "-----".toList = '-' :: ['-', '-', '-', '-'] := rfl
  have hpieces := Text.two_le_length_splitOn '-' ['-', '-', '-', '-']
    ("BEGIN ".toList ++ a.label) (ending a.beginReturn)
  rw [hstart, hdashes, Text.splitOn_separator_append, List.length_cons]
  omega

theorem readLines_begin (rest : List UInt8) :
    readLines (lines (lineBytes a.beginLine ++ rest)) = readBody [] (lines rest) := by
  have hmark : beginMark <+: a.beginLine := List.prefix_append _ _
  have hline : '\n' ∉ a.beginLine :=
    List.not_mem_append (by decide) (List.not_mem_append a.label_line
      (List.not_mem_append (by decide) (newline_not_mem_ending _)))
  rw [lines_lineBytes hline, readLines, lineText_encode]
  simp only [bind, Except.bind, if_pos (List.isPrefixOf_iff_prefix.mpr hmark),
    if_neg (three_le_length_splitOn a)]

/-! ## The block -/

theorem symbolCode_of_mem_body {l : List Char × Bool} (hl : l ∈ a.body) {c : Char} (hc : c ∈ l.1) :
    Base64.SymbolCode c.toNat := by
  obtain ⟨b, more, hbytes, -⟩ := Text.Utf8.front_encodeChar c
  have hb : b ∈ Text.Utf8.encodeChar c := by rw [hbytes]; exact List.mem_cons_self
  have hencoded : b ∈ encode (a.body.flatMap Prod.fst) :=
    List.mem_flatMap.mpr ⟨c, List.mem_flatMap.mpr ⟨l, hl, hc⟩, hb⟩
  rw [a.body_symbols] at hencoded
  have hrange := Base64.symbolCode_of_isSymbol (Base64.isSymbol_of_mem_encode hencoded)
  rcases Text.Utf8.byte_of_mem_encodeChar hb with heq | ⟨hhigh, -⟩
  · rwa [heq] at hrange
  · obtain ⟨-, hmost, -⟩ := hrange
    omega

/-- A line of symbols cannot end the block, since it does not begin with a dash. -/
theorem endMark_not_prefix {line : List Char} (h : ∀ c ∈ line.head?, c ≠ '-') :
    ¬ endMark.isPrefixOf line = true := by
  intro hmark
  obtain ⟨rest, rfl⟩ := List.isPrefixOf_iff_prefix.mp hmark
  exact h '-' rfl rfl

/-- A line of the block adds its symbols. -/
theorem readBody_cons {symbols line : List Char} {hasReturn : Bool}
    (hline : ∀ c ∈ line, Base64.SymbolCode c.toNat) (rest : List (List UInt8)) :
    readBody symbols (encode (line ++ ending hasReturn) :: rest) =
      readBody (symbols ++ line) rest := by
  have hother : ¬ endMark.isPrefixOf (line ++ ending hasReturn) = true := by
    refine endMark_not_prefix fun c hc => ?_
    cases line with
    | nil =>
      cases hasReturn with
      | true => cases hc; decide
      | false => cases hc
    | cons d line =>
      cases hc
      rintro rfl
      exact (hline '-' List.mem_cons_self).2.2 rfl
  have hblank : ∀ c ∈ ending hasReturn, Text.isBlank c = true := by
    cases hasReturn with
    | true => exact List.forall_mem_singleton.mpr rfl
    | false => exact List.forall_mem_nil _
  have hlast : ∀ c ∈ line.getLast?, Text.isBlank c = false := by
    intro c hc
    obtain ⟨hleast, hmost, -⟩ := hline c (List.mem_of_getLast? hc)
    simp only [Text.isBlank, Bool.or_eq_false_iff, Bool.and_eq_false_iff, decide_eq_false_iff_not,
      beq_eq_false_iff_ne]
    omega
  have htrim : Text.trimEnd (line ++ ending hasReturn) = line :=
    Text.dropEndWhile_append_of_last hlast hblank
  rw [readBody, lineText_encode]
  simp only [bind, Except.bind, if_neg hother, htrim]

/-- The symbols of the lines are put together, without the ends of the lines. -/
theorem readBody_body {body : List (List Char × Bool)}
    (hbody : ∀ l ∈ body, ∀ c ∈ l.1, Base64.SymbolCode c.toNat) (symbols : List Char)
    (rest : List UInt8) :
    readBody symbols (lines (body.flatMap (fun l => lineBytes (l.1 ++ ending l.2)) ++ rest)) =
      readBody (symbols ++ body.flatMap Prod.fst) (lines rest) := by
  induction body generalizing symbols with
  | nil => simp
  | cons l body ih =>
    obtain ⟨hl, hbody⟩ := List.forall_mem_cons.mp hbody
    have hline : '\n' ∉ l.1 ++ ending l.2 := by
      rw [List.mem_append, not_or]
      refine ⟨fun hmem => ?_, newline_not_mem_ending l.2⟩
      exact absurd (hl '\n' hmem).1 (by decide)
    rw [List.flatMap_cons, List.append_assoc, lines_lineBytes hline, readBody_cons hl, ih hbody,
      List.flatMap_cons, List.append_assoc]

/-- The line that ends the block has what has been put together decoded. -/
theorem readBody_end {symbols : List Char} (hsymbols : encode symbols = Base64.encode bytes)
    (rest : List UInt8) :
    readBody symbols (lines (lineBytes a.endLine ++ rest)) = .ok bytes := by
  have hmark : endMark <+: a.endLine := List.prefix_append _ _
  have hline : '\n' ∉ a.endLine :=
    List.not_mem_append (by decide) (List.not_mem_append a.label_line
      (List.not_mem_append (by decide) (newline_not_mem_ending _)))
  rw [lines_lineBytes hline, readBody, lineText_encode]
  simp only [bind, Except.bind, if_pos (List.isPrefixOf_iff_prefix.mpr hmark), hsymbols,
    Base64.decodeGroups_encode]
  rfl

/-- Bytes are read back from their armour. -/
theorem read_text : read a.text = .ok bytes := by
  have hbody := readBody_body (fun l hl c hc => symbolCode_of_mem_body a hl hc) []
    (lineBytes a.endLine ++ a.after)
  rw [read, Armour.text, readLines_before a.before_lines, readLines_begin, hbody]
  exact readBody_end a a.body_symbols a.after

/-! ## Size -/

theorem length_encode_body_le (body : List (List Char × Bool)) :
    (encode (body.flatMap Prod.fst)).length ≤
      (body.flatMap fun l => lineBytes (l.1 ++ ending l.2)).length := by
  induction body with
  | nil => exact Nat.le_refl 0
  | cons l body ih =>
    simp only [List.flatMap_cons, encode_append, lineBytes, List.length_append]
    simp only [lineBytes, encode_append] at ih
    omega

/-- Armour makes bytes no fewer. -/
theorem length_le_length_text : bytes.length ≤ a.text.length := by
  have hencode := Base64.length_le_length_encode bytes
  have hbody := length_encode_body_le a.body
  rw [a.body_symbols] at hbody
  simp only [Armour.text, List.length_append]
  omega

end

end Pem

end Certificate

namespace Expiry

open Certificate

/-- The date read from a certificate in PEM armour is the one encoded in it. Whatever the parts of
the certificate are, in either form of its end of validity, and however its symbols are broken into
lines, reading succeeds with the second at which it ends. The text is one that fits in memory. -/
theorem certificateExpiry_text (origin : String) (c : Signed) (a : Armour c.der)
    (hmemory : Der.Fits a.text) :
    certificateExpiry origin a.text = .ok c.body.notAfter.second.instant ∧
      c.body.notAfter.second.instant.nanos = 0 := by
  have hfits : Der.Fits c.der := Nat.lt_of_le_of_lt (Pem.length_le_length_text a) hmemory
  have hder := derNotAfter_der c hfits
  have hsupported := (derNotAfter_bounds hder).isSupported
  refine ⟨?_, rfl⟩
  simp only [certificateExpiry, notAfter, Pem.read_text a, hder, if_pos hsupported]
  rfl

def authorityStart : Second where
  year := 2021
  month := 8
  day := 10
  hour := 13
  minute := 25
  second := 0
  year_le := by decide
  date_exists := by decide
  hour_lt := by decide
  minute_lt := by decide
  second_lt := by decide

/-- The last second of a leap day. -/
def authorityEnd : Second where
  year := 2072
  month := 2
  day := 29
  hour := 23
  minute := 59
  second := 59
  year_le := by decide
  date_exists := by decide
  hour_lt := by decide
  minute_lt := by decide
  second_lt := by decide

/-- A certificate of an authority, whose end lies behind the years of the short form. -/
def authority : Signed where
  body :=
    { version := some 2
      serial := [0x01]
      algorithm := ⟨[0x2A, 0x86, 0x48, 0xCE, 0x3D, 0x04, 0x03, 0x02], none⟩
      issuer := [0x31, 0x0B, 0x30, 0x09, 0x06, 0x03, 0x55, 0x04, 0x03, 0x0C, 0x02, 0x63, 0x61]
      notBefore := .utc authorityStart (by decide) (by decide)
      notAfter := .generalized authorityEnd
      subject := [0x31, 0x0B, 0x30, 0x09, 0x06, 0x03, 0x55, 0x04, 0x03, 0x0C, 0x02, 0x63, 0x61]
      key :=
        { algorithm := ⟨[0x2A, 0x86, 0x48, 0xCE, 0x3D, 0x02, 0x01],
            some ⟨[0x06], [0x2A, 0x86, 0x48, 0xCE, 0x3D, 0x03, 0x01, 0x07], .short (by decide)⟩⟩
          bits := ⟨[0x04, 0x05], 0, by decide, by decide, by decide⟩ }
      issuerId := none
      subjectId := some ⟨[0x80], 7, by decide, by decide, by decide⟩
      extensions := some [⟨[0x55, 0x1D, 0x13], true, [0x30, 0x03, 0x01, 0x01, 0xFF]⟩] }
  algorithm := ⟨[0x2A, 0x86, 0x48, 0xCE, 0x3D, 0x04, 0x03, 0x02], none⟩
  signature := ⟨[0x06, 0x07], 0, by decide, by decide, by decide⟩

/-- The certificate behind a heading, in lines of two lengths, of which one is empty and some end
with a carriage return, and in front of what is no text. -/
def authorityArmour : Armour authority.der where
  before := ["Autorität:".toList, []]
  label := "CERTIFICATE".toList
  beginReturn := true
  body :=
    [("MIGdMIGJoAMCAQICAQEwCgYIKoZIzj0EAwIwDTELMAkGA1UEAwwCY2EwIBcNMjEw".toList, true),
      ("ODEwMTMyNTAwWhgPMjA3MjAyMjkyMzU5NTlaMA0xCzAJBgNVBAMMAmNhMBowEwYH".toList, false),
      ([], true),
      ("KoZIzj0CAQYIKoZIzj0DAQcDAwAEBYICB4CjEzARMA8GA1UdEwEB/wQFMAMBAf8w".toList, true),
      ("CgYIKoZIzj0EAwIDAwAGBw==".toList, false)]
  endReturn := false
  after := [0xFF, 0x0A]
  before_lines := by decide
  label_line := by decide
  body_symbols := by decide +kernel

/-- The certificate of the authority holds until the end of the leap day of 2072. -/
theorem certificateExpiry_text_of_authority :
    Der.Fits authorityArmour.text ∧
      certificateExpiry "Secret 'default/ca' key 'tls.crt'" authorityArmour.text =
        .ok (Instant.ofSeconds 3224015999) := by
  have hmemory : Der.Fits authorityArmour.text := by
    unfold Der.Fits
    decide +kernel
  have hend : authority.body.notAfter.second.instant = Instant.ofSeconds 3224015999 := by
    decide +kernel
  rw [← hend]
  exact ⟨hmemory, (certificateExpiry_text _ authority authorityArmour hmemory).1⟩

end Expiry

end CertRenewal
