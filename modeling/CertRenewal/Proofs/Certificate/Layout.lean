import CertRenewal.Certificate.NotAfter
import CertRenewal.Proofs.Certificate.Time

/-!
# A certificate is read back from its encoding

`Signed` is an X.509 certificate with all the parts that one may have, and `Signed.der` writes it.
Where the reader does not look into a part, such as a name, its content may be any bytes. Each part
is passed over by a lemma that leaves what stands behind it, and `derNotAfter_der` puts them
together: the end of the validity is read as the second that was written.
-/

namespace CertRenewal.Certificate

open Der (Fits encode element_encode sequence_encode elementOf)

/-! ## The parts of a certificate -/

def optional (der : α → List UInt8) : Option α → List UInt8
  | none => []
  | some a => der a

/-- The parameters of an algorithm: an element with any tag. -/
structure Parameters where
  identifier : List UInt8
  content : List UInt8
  isIdentifier : Der.IsIdentifier identifier

def Parameters.der (p : Parameters) : List UInt8 := encode p.identifier p.content

structure Algorithm where
  identifier : List UInt8
  parameters : Option Parameters

def Algorithm.der (a : Algorithm) : List UInt8 :=
  encode [0x30] (encode [0x06] a.identifier ++ optional Parameters.der a.parameters)

def versionDer (version : Fin 3) : List UInt8 := encode [0xA0] (encode [0x02] [version.val.toUInt8])

def validityDer (notBefore notAfter : Moment) : List UInt8 :=
  encode [0x30] (notBefore.der ++ notAfter.der)

/-- A public key: the algorithm that it is for, and its bits. -/
structure PublicKey where
  algorithm : Algorithm
  bits : Der.BitString

def PublicKey.der (k : PublicKey) : List UInt8 :=
  encode [0x30] (k.algorithm.der ++ encode [0x03] k.bits.content)

/-- A unique identifier of the issuer or the subject, each with its own tag. -/
def uniqueIdDer (first : UInt8) (id : Option Der.BitString) : List UInt8 :=
  optional (fun s => encode [first] s.content) id

/-- An extension. That it is critical is said only where it is. -/
structure Extension where
  identifier : List UInt8
  critical : Bool
  value : List UInt8

def criticalDer (critical : Bool) : List UInt8 := if critical then encode [0x01] [0xFF] else []

def Extension.content (e : Extension) : List UInt8 :=
  encode [0x06] e.identifier ++ (criticalDer e.critical ++ encode [0x04] e.value)

def Extension.der (e : Extension) : List UInt8 := encode [0x30] e.content

def extensionsDer (extensions : List Extension) : List UInt8 :=
  encode [0xA3] (encode [0x30] (extensions.flatMap Extension.der))

structure Body where
  version : Option (Fin 3)
  serial : List UInt8
  algorithm : Algorithm
  issuer : List UInt8
  notBefore : Moment
  notAfter : Moment
  subject : List UInt8
  key : PublicKey
  issuerId : Option Der.BitString
  subjectId : Option Der.BitString
  extensions : Option (List Extension)

def Body.content (b : Body) : List UInt8 :=
  optional versionDer b.version ++ (encode [0x02] b.serial ++ (b.algorithm.der ++
    (encode [0x30] b.issuer ++ (validityDer b.notBefore b.notAfter ++ (encode [0x30] b.subject ++
      (b.key.der ++ (uniqueIdDer 0x81 b.issuerId ++ (uniqueIdDer 0x82 b.subjectId ++
        optional extensionsDer b.extensions))))))))

/-- A certificate: a body and its signature. -/
structure Signed where
  body : Body
  algorithm : Algorithm
  signature : Der.BitString

def Signed.der (c : Signed) : List UInt8 :=
  encode [0x30] (encode [0x30] c.body.content ++
    (c.algorithm.der ++ encode [0x03] c.signature.content))

/-! ## In front of the validity -/

/-- A version is passed over, and so is none in front of the serial number. -/
theorem dropVersion_optional (version : Option (Fin 3)) {serial rest : List UInt8}
    (hfits : Fits (optional versionDer version ++ (encode [0x02] serial ++ rest))) :
    dropVersion (optional versionDer version ++ (encode [0x02] serial ++ rest)) =
      .ok (encode [0x02] serial ++ rest) := by
  cases version with
  | none =>
    have hread := element_encode (by decide) hfits.right.left rest
    have hne : encode [0x02] serial ++ rest ≠ [] := List.cons_ne_nil _ _
    simp only [optional, List.nil_append, dropVersion, if_neg hne, hread, bind, Except.bind]
    rfl
  | some version =>
    have hread := element_encode (by decide) hfits.left (encode [0x02] serial ++ rest)
    have hnumber := Der.element_encode_last (by decide) hfits.left.content
    have hne : versionDer version ++ (encode [0x02] serial ++ rest) ≠ [] := List.cons_ne_nil _ _
    have hversion : ∀ v : Fin 3, isVersion (elementOf 0x02 [v.val.toUInt8]) = true := by decide
    rw [optional, dropVersion, if_neg hne, versionDer, hread]
    simp only [bind, Except.bind, Der.elementOf_content, hnumber, hversion]
    rfl

theorem dropSerial_encode {serial rest : List UInt8}
    (hfits : Fits (encode [0x02] serial ++ rest)) :
    dropSerial (encode [0x02] serial ++ rest) = .ok rest := by
  rw [dropSerial, element_encode (by decide) hfits.left]
  rfl

theorem dropIdentifier_encode {identifier rest : List UInt8}
    (hfits : Fits (encode [0x06] identifier ++ rest)) :
    dropIdentifier (encode [0x06] identifier ++ rest) = .ok rest := by
  rw [dropIdentifier, element_encode (by decide) hfits.left]
  rfl

/-- An algorithm is passed over, whatever its parameters are. -/
theorem dropAlgorithm_der (a : Algorithm) {rest : List UInt8} (hfits : Fits (a.der ++ rest)) :
    dropAlgorithm (a.der ++ rest) = .ok rest := by
  have hcontent := hfits.left.content
  simp only [dropAlgorithm, Algorithm.der, sequence_encode hfits.left, bind, Except.bind,
    dropIdentifier_encode hcontent]
  cases hparameters : a.parameters with
  | none => rfl
  | some p =>
    -- Parameters whose tag cannot be read count as missing.
    have hread : (Der.header (optional Parameters.der (some p))).isOk = true →
        ∃ e, Der.element (optional Parameters.der (some p)) = .ok (e, []) := by
      rw [hparameters] at hcontent
      simpa [optional, Parameters.der] using
        Der.exists_element_encode p.isIdentifier hcontent.right []
    by_cases hok : (Der.header (optional Parameters.der (some p))).isOk = true
    · obtain ⟨e, helement⟩ := hread hok
      rw [if_pos hok, helement]
      rfl
    · exact if_neg hok

theorem dropName_encode {name rest : List UInt8} (hfits : Fits (encode [0x30] name ++ rest)) :
    dropName (encode [0x30] name ++ rest) = .ok rest := by
  rw [dropName, sequence_encode hfits.left]
  rfl

/-- The second of the two times is the one that counts. -/
theorem validityEnd_der {notBefore notAfter : Moment} {rest : List UInt8}
    (hfits : Fits (validityDer notBefore notAfter ++ rest)) :
    validityEnd (validityDer notBefore notAfter ++ rest) =
      .ok (notAfter.second.instant.seconds, rest) := by
  have hcontent := hfits.left.content
  have hend := Time.read_encode notAfter hcontent.right []
  rw [List.append_nil] at hend
  simp only [validityEnd, validityDer, sequence_encode hfits.left, bind, Except.bind,
    Time.read_encode notBefore hcontent.left, hend]
  rfl

/-! ## Behind the validity -/

/-- A bit string that ends a sequence. -/
theorem bitString_last {s : Der.BitString} (hfits : Fits (encode [0x03] s.content)) :
    Der.bitString (encode [0x03] s.content) = .ok [] := by
  simpa using Der.bitString_encode s hfits []

theorem dropPublicKey_der (k : PublicKey) {rest : List UInt8} (hfits : Fits (k.der ++ rest)) :
    dropPublicKey (k.der ++ rest) = .ok rest := by
  have hcontent := hfits.left.content
  simp only [dropPublicKey, PublicKey.der, sequence_encode hfits.left, bind, Except.bind,
    dropAlgorithm_der k.algorithm hcontent, bitString_last hcontent.right]
  rfl

/-- An element with another tag is not passed over as a unique identifier. -/
theorem dropUniqueId_other {tag : Nat} {first : UInt8} {content rest : List UInt8}
    (hfirst : first.toNat % 32 ≠ 31) (hother : ¬ (first.toNat / 64 = 2 ∧ first.toNat % 32 = tag))
    (hfits : Fits (encode [first] content ++ rest)) :
    dropUniqueId tag (encode [first] content ++ rest) = .ok (encode [first] content ++ rest) := by
  rw [dropUniqueId, Der.header_encode hfirst hfits.left]
  exact if_neg hother

/-- A unique identifier is passed over where one with its tag may stand. -/
theorem dropUniqueId_encode {tag : Nat} {first : UInt8} {s : Der.BitString} {rest : List UInt8}
    (hfirst : first.toNat % 32 ≠ 31) (hprimitive : first.toNat / 32 % 2 = 0)
    (htag : first.toNat / 64 = 2 ∧ first.toNat % 32 = tag)
    (hfits : Fits (encode [first] s.content ++ rest)) :
    dropUniqueId tag (encode [first] s.content ++ rest) = .ok rest := by
  rw [dropUniqueId, Der.header_encode hfirst hfits.left]
  refine (if_pos htag).trans ?_
  simp only [element_encode hfirst hfits.left, bind, Except.bind,
    Der.checkBits_content s hprimitive]
  rfl

section

variable {issuerId subjectId : Option Der.BitString} {extensions : Option (List Extension)}

/-- Neither are extensions, nor is the end of the body. -/
theorem dropUniqueId_extensions {tag : Nat} (htag : tag ≠ 3)
    (hfits : Fits (optional extensionsDer extensions)) :
    dropUniqueId tag (optional extensionsDer extensions) =
      .ok (optional extensionsDer extensions) := by
  cases extensions with
  | none => rfl
  | some es =>
    have hother : ¬ ((0xA3 : UInt8).toNat / 64 = 2 ∧ (0xA3 : UInt8).toNat % 32 = tag) :=
      fun h => htag h.2.symm
    rw [← List.append_nil (optional extensionsDer (some es))] at hfits ⊢
    exact dropUniqueId_other (by decide) hother hfits

theorem dropUniqueId_issuer
    (hfits : Fits (uniqueIdDer 0x81 issuerId ++
      (uniqueIdDer 0x82 subjectId ++ optional extensionsDer extensions))) :
    dropUniqueId 1 (uniqueIdDer 0x81 issuerId ++
        (uniqueIdDer 0x82 subjectId ++ optional extensionsDer extensions)) =
      .ok (uniqueIdDer 0x82 subjectId ++ optional extensionsDer extensions) := by
  cases issuerId with
  | some s => exact dropUniqueId_encode (by decide) (by decide) (by decide) hfits
  | none =>
    cases subjectId with
    | some s => exact dropUniqueId_other (by decide) (by decide) hfits
    | none => exact dropUniqueId_extensions (by decide) hfits.right.right

theorem dropUniqueId_subject
    (hfits : Fits (uniqueIdDer 0x82 subjectId ++ optional extensionsDer extensions)) :
    dropUniqueId 2 (uniqueIdDer 0x82 subjectId ++ optional extensionsDer extensions) =
      .ok (optional extensionsDer extensions) := by
  cases subjectId with
  | some s => exact dropUniqueId_encode (by decide) (by decide) (by decide) hfits
  | none => exact dropUniqueId_extensions (by decide) hfits.right

end

/-! ## Extensions -/

/-- It makes no difference to the reader whether an extension is critical. -/
theorem dropCritical_encode (critical : Bool) {value : List UInt8}
    (hfits : Fits (criticalDer critical ++ encode [0x04] value)) :
    dropCritical (criticalDer critical ++ encode [0x04] value) = .ok (encode [0x04] value) := by
  cases critical with
  | true =>
    have hread := element_encode (by decide) hfits.left (encode [0x04] value)
    simp only [dropCritical, criticalDer, if_true, hread, bind, Except.bind]
    rfl
  | false =>
    have hread := Der.element_encode_last (by decide) hfits.right
    simp only [dropCritical, criticalDer, Bool.false_eq_true, if_false, List.nil_append, hread,
      bind, Except.bind]
    rfl

/-- Every extension of the layout is one for the reader. -/
theorem isExtension_content (e : Extension) (hfits : Fits e.content) :
    isExtension (elementOf 0x30 e.content) = true := by
  have hvalue := Der.element_encode_last (by decide) hfits.right.right
  rw [isExtension, Der.elementOf_content, Extension.content]
  simp only [dropIdentifier_encode hfits, dropCritical_encode e.critical hfits.right, hvalue, bind,
    Except.bind]
  rfl

theorem areExtensions_succ (fuel : Nat) {bytes : List UInt8} (h : bytes ≠ []) :
    areExtensions (fuel + 1) bytes =
      match Der.element bytes with
      | .ok (e, rest) => isExtension e && areExtensions fuel rest
      | .error _ => false := by
  cases bytes with
  | nil => exact absurd rfl h
  | cons b rest => rfl

/-- Extensions are read one by one, each with some of the fuel. -/
theorem areExtensions_flatMap {extensions : List Extension}
    (hfits : Fits (extensions.flatMap Extension.der)) {fuel : Nat}
    (hfuel : extensions.length ≤ fuel) :
    areExtensions fuel (extensions.flatMap Extension.der) = true := by
  induction extensions generalizing fuel with
  | nil => simp [areExtensions]
  | cons e rest ih =>
    rw [List.flatMap_cons] at hfits ⊢
    have hread := element_encode (by decide) hfits.left (rest.flatMap Extension.der)
    have hne : e.der ++ rest.flatMap Extension.der ≠ [] := List.cons_ne_nil _ _
    cases fuel with
    | zero => exact absurd hfuel (Nat.not_succ_le_zero _)
    | succ fuel =>
      rw [areExtensions_succ fuel hne, Extension.der, hread]
      simp only [isExtension_content e hfits.left.content, Bool.true_and]
      exact ih hfits.right (Nat.le_of_succ_le_succ hfuel)

/-- No extension is empty, so that the fuel of the reader is enough. -/
theorem length_le_length_flatMap (extensions : List Extension) :
    extensions.length ≤ (extensions.flatMap Extension.der).length := by
  induction extensions with
  | nil => exact Nat.le_refl 0
  | cons e rest ih =>
    rw [List.flatMap_cons, List.length_append, List.length_cons, Nat.add_comm]
    exact Nat.add_le_add (Nat.succ_le_of_lt (List.length_pos_iff.mpr (List.cons_ne_nil _ _))) ih

theorem checkExtensions_optional {extensions : Option (List Extension)}
    (hfits : Fits (optional extensionsDer extensions)) :
    checkExtensions (optional extensionsDer extensions) = .ok () := by
  cases extensions with
  | none => rfl
  | some es =>
    have hinner : Fits (encode [0x30] (es.flatMap Extension.der)) := hfits.content
    have hne : extensionsDer es ≠ [] := List.cons_ne_nil _ _
    have hheader := Der.header_encode (by decide) hfits []
    have hsequence := Der.sequence_encode_last hinner
    have hall := areExtensions_flatMap hinner.content (length_le_length_flatMap es)
    rw [List.append_nil, List.append_nil] at hheader
    rw [optional, checkExtensions, if_neg hne, extensionsDer, hheader]
    simp only [hsequence, bind, Except.bind, hall]
    rfl

/-! ## The certificate -/

/-- A body is read to its end, and the second of its two times is kept. -/
theorem bodyNotAfter_content (b : Body) (hfits : Fits b.content) :
    bodyNotAfter b.content = .ok b.notAfter.second.instant.seconds := by
  have hserial := hfits.right
  have halgorithm := hserial.right
  have hissuer := halgorithm.right
  have hvalidity := hissuer.right
  have hsubject := hvalidity.right
  have hkey := hsubject.right
  have hissuerId := hkey.right
  have hsubjectId := hissuerId.right
  have hextensions := hsubjectId.right
  simp only [bodyNotAfter, Body.content, bind, Except.bind, dropVersion_optional b.version hfits,
    dropSerial_encode hserial, dropAlgorithm_der b.algorithm halgorithm, dropName_encode hissuer,
    validityEnd_der hvalidity, dropName_encode hsubject, dropPublicKey_der b.key hkey,
    dropUniqueId_issuer hissuerId, dropUniqueId_subject hsubjectId,
    checkExtensions_optional hextensions]
  rfl

/-- The end of the validity is read back. -/
theorem derNotAfter_der (c : Signed) (hfits : Fits c.der) :
    derNotAfter c.der = .ok c.body.notAfter.second.instant.seconds := by
  have hcontent := hfits.content
  have hsignature := hcontent.right
  simp only [derNotAfter, Signed.der, Der.sequence_encode_last hfits, bind, Except.bind,
    sequence_encode hcontent.left, bodyNotAfter_content c.body hcontent.left.content,
    dropAlgorithm_der c.algorithm hsignature, bitString_last hsignature.right]
  rfl

end CertRenewal.Certificate
