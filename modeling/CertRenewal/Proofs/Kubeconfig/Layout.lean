import CertRenewal.Kubeconfig
import CertRenewal.Proofs.Yaml.Layout
import Mathlib.Data.List.Forall2

/-!
# Kubeconfigs in block style

`Lists` says which clusters and users a document in block style lists. It is about the layout, not
about how one is read: the keys that matter are given once, wherever they stand, and other keys may
be given too. Every list of clusters and every list of users has such a document (`lists_layout`).
-/

namespace CertRenewal

/-! ## What a document holds -/

namespace Yaml

def Entries.toList : Entries → List (Key × Value)
  | .last key value => [(key, value)]
  | .cons key value _ more => (key, value) :: more.toList

def Items.toList : Items → List Content
  | .last _ content => [content]
  | .cons _ content _ more => content :: more.toList

theorem Entries.nodes_eq_map (entries : Entries) :
    entries.nodes = entries.toList.map fun (key, value) => (key.scalar.node, value.node) := by
  induction entries using Entries.toList.induct with
  | case1 => rfl
  | case2 key value lines more ih => rw [nodes, ih, toList, List.map_cons]

theorem Items.nodes_eq_map (items : Items) : items.nodes = items.toList.map Content.node := by
  induction items using Items.toList.induct with
  | case1 => rfl
  | case2 spaces content lines more ih => rw [nodes, ih, toList, List.map_cons]

namespace Value

/-- What a value is, whether it stands behind its key or below it. -/
def content? : Value → Option Content
  | .nothing => none
  | .beside _ _ leaf => some (.leaf leaf)
  | .under _ _ content => some content

theorem node_of_content?_none {value : Value} (h : value.content? = none) :
    value.node = .missing .empty := by
  cases value <;> cases h
  rfl

/-- What is found of a value is what it stands for. -/
theorem node_of_content? {value : Value} {content : Content} (h : value.content? = some content) :
    value.node = content.node := by
  cases value <;> cases h <;> simp only [Value.node, Content.node]

def word? (value : Value) : Option Word :=
  match value.content? with
  | some (.leaf (.scalar scalar)) => some scalar.word
  | _ => none

/-- The entries that are written as a mapping. Without any there are braces, or nothing. -/
def entries? (value : Value) : Option (List (Key × Value)) :=
  match value.content? with
  | none | some (.leaf .braces) => some []
  | some (.mapping entries) => some entries.toList
  | _ => none

/-- The items that are written as a sequence. Without any there are brackets, or nothing. -/
def items? (value : Value) : Option (List Content) :=
  match value.content? with
  | none | some (.leaf .brackets) => some []
  | some (.sequence items) => some items.toList
  | _ => none

end Value

def valuesOf (key : String) (entries : List (Key × Value)) : List Value :=
  (entries.filter fun (k, _) => k.scalar.word.text == key.toList).map Prod.snd

end Yaml

namespace Kubeconfig

open Yaml

/-! ## Names and certificates -/

/-- Whether a text is a name: a letter or digit, and then letters, digits and four marks. -/
def isName : List Char → Bool
  | [] => false
  | c :: rest => c.isAlphanum && rest.all fun c => c.isAlphanum || ['.', '_', '@', '-'].contains c

/-- Whether a text is the base64 text of some data. The four letters of null stand for no text. -/
def isData (s : List Char) : Bool :=
  s != [] && s.all (fun c => c.isAlphanum || ['+', '/', '='].contains c) &&
    s.map Char.toLower != "null".toList

structure Name where
  text : List Char
  wellFormed : isName text

structure Data where
  text : List Char
  wellFormed : isData text

theorem toNat_lt_of_isAlphanum {c : Char} (h : c.isAlphanum) : c.toNat < 128 := by
  delta Char.isAlphanum Char.isAlpha Char.isUpper Char.isLower Char.isDigit at h
  simp only [Bool.or_eq_true, Bool.and_eq_true, decide_eq_true_eq, ge_iff_le,
    UInt32.le_iff_toNat_le] at h
  change ((65 ≤ c.toNat ∧ c.toNat ≤ 90) ∨ (97 ≤ c.toNat ∧ c.toNat ≤ 122)) ∨
    (48 ≤ c.toNat ∧ c.toNat ≤ 57) at h
  omega

theorem isWordChar_of_isAlphanum {c : Char} (h : c.isAlphanum) :
    isWordChar c ∧ c ∉ '.' :: indicators := by
  have htable : ∀ n < 128, (Char.ofNat n).isAlphanum →
      isWordChar (Char.ofNat n) ∧ Char.ofNat n ∉ '.' :: indicators := by
    decide +kernel
  simpa using htable c.toNat (toNat_lt_of_isAlphanum h) (by simpa using h)

/-- Letters, digits and some marks can stand anywhere in a word. -/
theorem isWordChar_of_marks (marks : List Char)
    (hmarks : marks.all fun m => isWordChar m && m != ':') {c : Char}
    (h : c.isAlphanum || marks.contains c) : isWordChar c ∧ c ≠ ':' := by
  rcases Bool.or_eq_true_iff.mp h with hc | hc
  · obtain ⟨hword, hother⟩ := isWordChar_of_isAlphanum hc
    refine ⟨hword, ?_⟩
    rintro rfl
    exact hother (by decide)
  · simpa using List.all_eq_true.mp hmarks c (List.contains_iff_mem.mp hc)

/-- A text is a word if its characters can stand anywhere in words, and the first one in front. -/
theorem isWord_of_forall {c : Char} {rest : List Char} (hc : c ∉ '.' :: indicators)
    (h : ∀ x ∈ c :: rest, isWordChar x ∧ x ≠ ':') : isWord (c :: rest) := by
  have hall : (c :: rest).all isWordChar := List.all_eq_true.mpr fun x hx => (h x hx).1
  have hlast : (c :: rest).getLast? ≠ some ':' := fun hcolon =>
    (h ':' (List.mem_of_getLast? hcolon)).2 rfl
  simpa only [isWord, hall, List.contains_eq_mem, hc, decide_false, Bool.not_false, Bool.and_self,
    Bool.true_and, bne_iff_ne] using hlast

def Name.word (name : Name) : Word where
  text := name.text
  wellFormed := by
    obtain ⟨_ | ⟨c, rest⟩, h⟩ := name
    · cases h
    · obtain ⟨hc, hrest⟩ := Bool.and_eq_true_iff.mp h
      obtain ⟨-, hfirst⟩ := isWordChar_of_isAlphanum hc
      refine isWord_of_forall hfirst fun x hx => ?_
      refine isWordChar_of_marks ['.', '_', '@', '-'] rfl ?_
      rcases List.mem_cons.mp hx with rfl | hx
      · rw [hc, Bool.true_or]
      · exact List.all_eq_true.mp hrest x hx

def Data.word (data : Data) : Word where
  text := data.text
  wellFormed := by
    obtain ⟨_ | ⟨c, rest⟩, h⟩ := data
    · cases h
    · simp only [isData, Bool.and_eq_true, List.all_eq_true] at h
      obtain ⟨⟨-, hall⟩, -⟩ := h
      have hfirst : c ∉ '.' :: indicators := by
        rcases Bool.or_eq_true_iff.mp (hall c List.mem_cons_self) with hc | hc
        · exact (isWordChar_of_isAlphanum hc).2
        · have hmarks : ['+', '/', '='].all (fun m => !('.' :: indicators).contains m) := rfl
          simpa using List.all_eq_true.mp hmarks c (List.contains_iff_mem.mp hc)
      exact isWord_of_forall hfirst fun x hx =>
        isWordChar_of_marks ['+', '/', '='] rfl (hall x hx)

/-- The text of a certificate is never taken for null. -/
theorem Data.isNullWord_text (data : Data) : isNullWord data.text = false := by
  refine Bool.eq_false_iff.mpr fun hnull => ?_
  have hfalse : ∀ word ∈ ["null", "Null", "NULL", "~"], isData word.toList = false := by decide
  have hdata := hfalse _ (List.contains_iff_mem.mp hnull)
  rw [String.toList_ofList, data.wellFormed] at hdata
  cases hdata

/-- A cluster or user and its certificate, if one is embedded. -/
structure Credential where
  name : Name
  certificate : Option Data

def Credential.entry (credential : Credential) : Entry where
  name := String.ofList credential.name.text
  certificate := credential.certificate.map fun data => String.ofList data.text

/-! ## What a kubeconfig lists -/

/-- Which certificate a record has: the one that is given once for the key, or none. -/
inductive Certifies (key : String) (fields : List (Key × Value)) : Option Data → Prop where
  | given {value : Value} {data : Data} (hvalue : valuesOf key fields = [value])
      (hdata : value.word? = some data.word) : Certifies key fields (some data)
  | absent (hvalue : valuesOf key fields = []) : Certifies key fields none

/-- Whether an item is a cluster or user: it has a name, and a record with its certificate. -/
def Describes (recordKey certificateKey : String) (item : Content) (credential : Credential) :
    Prop :=
  ∃ entries name record fields, item = .mapping entries ∧
    valuesOf "name" entries.toList = [name] ∧ name.word? = some credential.name.word ∧
    valuesOf recordKey entries.toList = [record] ∧ record.entries? = some fields ∧
    Certifies certificateKey fields credential.certificate

/-- Whether clusters or users are listed in order under a key. -/
def ListsUnder (key recordKey certificateKey : String) (entries : List (Key × Value))
    (credentials : List Credential) : Prop :=
  ∃ value items, valuesOf key entries = [value] ∧ value.items? = some items ∧
    List.Forall₂ (Describes recordKey certificateKey) items credentials

/-- What a kubeconfig lists. There may be any other keys, with any values. -/
structure Lists (d : Document) (clusters users : List Credential) : Prop where
  clusters : ListsUnder "clusters" "cluster" "certificate-authority-data" d.entries.toList clusters
  users : ListsUnder "users" "user" "client-certificate-data" d.entries.toList users

/-! ## A document for every list -/

/-- A key that needs no quotes. -/
structure PlainKey where
  name : String
  wellFormed : isWord name.toList
  isShort : name.toList.length ≤ 1024

def PlainKey.key (k : PlainKey) : Key :=
  ⟨⟨.plain, ⟨k.name.toList, k.wellFormed⟩⟩, by simpa [Scalar.text, Quotes.mark] using k.isShort⟩

/-- A key without quotes is compared by its name. -/
theorem valuesOf_cons (key : String) (k : PlainKey) (value : Value) (more : List (Key × Value)) :
    valuesOf key ((k.key, value) :: more) =
      if k.name = key then value :: valuesOf key more else valuesOf key more := by
  by_cases h : k.name = key <;> simp [valuesOf, PlainKey.key, h, String.toList_inj]

/-- A word behind its key. -/
def besideKey (word : Word) : Value := .beside .space [] (.scalar ⟨.plain, word⟩)

def newLine : Lines := ⟨⟨[], none, by simp⟩, []⟩

def nameKey : PlainKey := ⟨"name", by decide, by decide⟩

structure Keys where
  list : PlainKey
  record : PlainKey
  certificate : PlainKey
  record_ne_name : record.name ≠ nameKey.name

def clusterKeys : Keys where
  list := ⟨"clusters", by decide, by decide⟩
  record := ⟨"cluster", by decide, by decide⟩
  certificate := ⟨"certificate-authority-data", by decide, by decide⟩
  record_ne_name := by decide

def userKeys : Keys where
  list := ⟨"users", by decide, by decide⟩
  record := ⟨"user", by decide, by decide⟩
  certificate := ⟨"client-certificate-data", by decide, by decide⟩
  record_ne_name := by decide

namespace Keys

variable (keys : Keys)

def recordOf : Option Data → Value
  | none => .beside .space [] .braces
  | some data => .under newLine 0 (.mapping (.last keys.certificate.key (besideKey data.word)))

/-- A cluster or user. -/
def itemOf (credential : Credential) : Content :=
  .mapping (.cons nameKey.key (besideKey credential.name.word) newLine
    (.last keys.record.key (keys.recordOf credential.certificate)))

def itemsOf (first : Credential) : List Credential → Items
  | [] => .last 0 (keys.itemOf first)
  | second :: more => .cons 0 (keys.itemOf first) newLine (itemsOf second more)

/-- Clusters or users as the value of a key. -/
def listing : List Credential → Value
  | [] => .beside .space [] .brackets
  | first :: more => .under newLine 0 (.sequence (keys.itemsOf first more))

theorem certifies_recordOf (certificate : Option Data) :
    ∃ fields, (keys.recordOf certificate).entries? = some fields ∧
      Certifies keys.certificate.name fields certificate := by
  cases certificate with
  | none => exact ⟨_, rfl, .absent rfl⟩
  | some data => exact ⟨_, rfl, .given (by rw [Entries.toList, valuesOf_cons, if_pos rfl]; rfl) rfl⟩

/-- An item that is made of a credential has it. -/
theorem describes_itemOf (credential : Credential) :
    Describes keys.record.name keys.certificate.name (keys.itemOf credential) credential := by
  obtain ⟨fields, hfields, hcertifies⟩ := keys.certifies_recordOf credential.certificate
  refine ⟨_, besideKey credential.name.word, _, fields, rfl, ?_, rfl, ?_, hfields, hcertifies⟩
  · change valuesOf nameKey.name _ = _
    rw [Entries.toList, valuesOf_cons, if_pos rfl, Entries.toList, valuesOf_cons,
      if_neg keys.record_ne_name]
    rfl
  · rw [Entries.toList, valuesOf_cons, if_neg keys.record_ne_name.symm, Entries.toList,
      valuesOf_cons, if_pos rfl]
    rfl

theorem forall₂_describes_itemsOf (first : Credential) (more : List Credential) :
    List.Forall₂ (Describes keys.record.name keys.certificate.name)
      (keys.itemsOf first more).toList (first :: more) := by
  induction more generalizing first with
  | nil => exact .cons (keys.describes_itemOf first) .nil
  | cons second more ih => exact .cons (keys.describes_itemOf first) (ih second)

/-- There is a listing for any credentials, also for none. -/
theorem exists_items_listing (credentials : List Credential) :
    ∃ items, (keys.listing credentials).items? = some items ∧
      List.Forall₂ (Describes keys.record.name keys.certificate.name) items credentials := by
  cases credentials with
  | nil => exact ⟨_, rfl, .nil⟩
  | cons first more => exact ⟨_, rfl, keys.forall₂_describes_itemsOf first more⟩

end Keys

/-- A kubeconfig without other keys. -/
def layout (clusters users : List Credential) : Document where
  head := []
  beginMark := none
  margin := 0
  entries := .cons clusterKeys.list.key (clusterKeys.listing clusters) newLine
    (.last userKeys.list.key (userKeys.listing users))
  endMark := none
  ending := .later newLine ⟨0, none⟩

/-- There is a document for every list of clusters and every list of users. -/
theorem lists_layout (clusters users : List Credential) :
    Lists (layout clusters users) clusters users where
  clusters := by
    obtain ⟨items, hitems, hall⟩ := clusterKeys.exists_items_listing clusters
    exact ⟨_, items, rfl, hitems, hall⟩
  users := by
    obtain ⟨items, hitems, hall⟩ := userKeys.exists_items_listing users
    exact ⟨_, items, rfl, hitems, hall⟩

end Kubeconfig

end CertRenewal
