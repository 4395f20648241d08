import CertRenewal.Proofs.Kubeconfig.Layout
import CertRenewal.Proofs.Yaml.Document

/-!
# Reading kubeconfigs in block style

Exactly the clusters and users that a document lists are read from its text (`parse_of_lists`):
whatever other keys stand in front, between or behind, whatever they hold, and however the document
is laid out. One without a certificate is read only where the document gives none.
-/

namespace CertRenewal.Kubeconfig

open Yaml

/-! ## Reading what is listed -/

variable (document : Node)

theorem node_of_word? {value : Value} {word : Word} (h : value.word? = some word) :
    ∃ plain, value.node = .scalar none none plain word.text := by
  unfold Value.word? at h
  split at h
  · rename_i scalar hcontent
    cases h
    exact ⟨_, Value.node_of_content? hcontent⟩
  · cases h

/-- A word is read as its text, with or without quotes. -/
theorem text_word {value : Value} {word : Word} (h : value.word? = some word) :
    text document value.node = some word.text := by
  obtain ⟨plain, hnode⟩ := node_of_word? h
  rw [hnode]
  rfl

/-- Data in base64 is not taken for null. -/
theorem optionalText_data {value : Value} {data : Data} (h : value.word? = some data.word) :
    optionalText document value.node = some (some data.text) := by
  obtain ⟨plain, hnode⟩ := node_of_word? h
  have hnull : isNullWord data.word.text = false := data.isNullWord_text
  have hempty : data.word.text.isEmpty = false := by
    obtain ⟨c, rest, htext, -⟩ := data.word.exists_text
    rw [htext, List.isEmpty_cons]
  rw [hnode]
  cases plain with
  | false => rfl
  | true =>
    simp only [optionalText, Node.resolve, hnull, hempty, Bool.or_self, Bool.false_eq_true,
      if_false]
    rfl

def fieldOf (entry : Key × Value) : List Char × Node := (entry.1.scalar.word.text, entry.2.node)

theorem fields_mapping (entries : Entries) :
    fields document (.mapping none entries.nodes) = some (entries.toList.map fieldOf) := by
  rw [entries.nodes_eq_map]
  simp only [fields, Node.resolve, List.mapM_map]
  exact List.mapM_pure

theorem fields_entries? {value : Value} {entries : List (Key × Value)}
    (h : value.entries? = some entries) :
    fields document value.node = some (entries.map fieldOf) := by
  unfold Value.entries? at h
  split at h
  · rename_i hcontent
    cases h
    rw [Value.node_of_content?_none hcontent]
    rfl
  · rename_i hcontent
    cases h
    rw [Value.node_of_content? hcontent]
    rfl
  · rename_i entries hcontent
    cases h
    rw [Value.node_of_content? hcontent]
    exact fields_mapping document entries
  · cases h

theorem items_items? {value : Value} {contents : List Content} (h : value.items? = some contents) :
    items document value.node = some (contents.map Content.node) := by
  unfold Value.items? at h
  split at h
  · rename_i hcontent
    cases h
    rw [Value.node_of_content?_none hcontent]
    rfl
  · rename_i hcontent
    cases h
    rw [Value.node_of_content? hcontent]
    rfl
  · rename_i items hcontent
    cases h
    rw [Value.node_of_content? hcontent, Content.node, items.nodes_eq_map]
    rfl
  · cases h

theorem filter_map_fieldOf (key : String) (entries : List (Key × Value)) :
    (entries.map fieldOf).filter (fun (k, _) => k == key.toList) =
      (entries.filter fun (k, _) => k.scalar.word.text == key.toList).map fieldOf := by
  rw [List.filter_map]
  rfl

/-- A key that is nowhere given has no value, and that is no error. -/
theorem field_nil {key : String} {entries : List (Key × Value)} (h : valuesOf key entries = []) :
    field key (entries.map fieldOf) = some none := by
  rw [field, filter_map_fieldOf, List.map_eq_nil_iff.mp h]
  rfl

/-- A key that is given once has the value behind it. -/
theorem field_singleton {key : String} {entries : List (Key × Value)} {value : Value}
    (h : valuesOf key entries = [value]) :
    field key (entries.map fieldOf) = some (some value.node) := by
  obtain ⟨⟨k, v⟩, hfilter, rfl⟩ := List.map_eq_singleton_iff.mp h
  rw [field, filter_map_fieldOf, hfilter]
  rfl

/-- A cluster or user is read with its name and its certificate. -/
theorem entry_of_describes {recordKey certificateKey : String} {item : Content}
    {credential : Credential} (h : Describes recordKey certificateKey item credential) :
    entry document recordKey certificateKey item.node = some credential.entry := by
  obtain ⟨outer, name, record, inner, rfl, hname, hword, hrecord, hinner, hcertificate⟩ := h
  rw [entry, Content.node, fields_mapping]
  simp only [Option.bind_eq_bind, Option.bind_some, field_singleton hname,
    field_singleton hrecord, text_word document hword, fields_entries? document hinner]
  obtain ⟨name, certificate⟩ := credential
  cases hcertificate with
  | given hvalue hdata =>
    simp only [field_singleton hvalue, optionalText_data document hdata, Option.bind_some]
    rfl
  | absent hvalue =>
    simp only [field_nil hvalue, Option.bind_some]
    rfl

/-- A listing is read entry by entry. -/
theorem entries_of_listsUnder {key recordKey certificateKey : String}
    {outer : List (Key × Value)} {credentials : List Credential}
    (h : ListsUnder key recordKey certificateKey outer credentials) :
    entries document key recordKey certificateKey (outer.map fieldOf) =
      some (credentials.map Credential.entry) := by
  obtain ⟨value, contents, hvalue, hitems, hall⟩ := h
  rw [entries, field_singleton hvalue]
  simp only [Option.bind_eq_bind, Option.bind_some, items_items? document hitems]
  clear hitems
  induction hall with
  | nil => rfl
  | cons hitem _ ih =>
    rw [List.map_cons, List.mapM_cons, entry_of_describes document hitem, ih]
    rfl

/-- What a document lists is read from its text: no cluster, no user and no certificate is missed,
and none is made up. Which characters stand for the line breaks does not matter. -/
theorem parse_of_lists {d : Document} {clusters users : List Credential}
    (hlists : Lists d clusters users) {text : List Char} (htext : normalizeBreaks text = d.text) :
    parse text = some ⟨clusters.map Credential.entry, users.map Credential.entry⟩ := by
  have hfields : fields d.node d.node = some (d.entries.toList.map fieldOf) :=
    fields_mapping d.node d.entries
  rw [parse, d.parse_text htext]
  simp only [ofNode, hfields, entries_of_listsUnder d.node hlists.clusters,
    entries_of_listsUnder d.node hlists.users, Option.bind_eq_bind, Option.bind_some,
    Option.pure_def]

/-- A kubeconfig with other keys, and with the users in front of the clusters. -/
def sample : Document where
  head := [⟨0, some ⟨" of the workload cluster".toList, by decide⟩⟩]
  beginMark := none
  margin := 0
  entries :=
    .cons (PlainKey.key ⟨"apiVersion", by decide, by decide⟩) (besideKey ⟨"v1".toList, by decide⟩)
      newLine <|
    .cons userKeys.list.key
      (.under newLine 0 <| .sequence <| .last 0 <| .mapping <|
        .cons userKeys.record.key
          (.under newLine 1 <| .mapping <|
            .last (PlainKey.key ⟨"token", by decide, by decide⟩)
              (besideKey ⟨"abc".toList, by decide⟩)) newLine <|
        .last nameKey.key (besideKey ⟨"admin@workload".toList, by decide⟩)) newLine <|
    .last clusterKeys.list.key
      (.under newLine 2 <| .sequence <| .last 0 <| .mapping <|
        .cons nameKey.key (besideKey ⟨"workload".toList, by decide⟩) newLine <|
        .last clusterKeys.record.key
          (.under newLine 1 <| .mapping <|
            .cons clusterKeys.certificate.key
              (.under newLine 1 <| .leaf <| .scalar ⟨.double, ⟨"Q0E=".toList, by decide⟩⟩)
              ⟨⟨[.tab], some ⟨" CA".toList, by decide⟩, fun _ => List.cons_ne_nil _ _⟩, []⟩ <|
            .last (PlainKey.key ⟨"server", by decide, by decide⟩)
              (besideKey ⟨"https://10.23.25.101:6443".toList, by decide⟩)))
  endMark := none
  ending := .later newLine ⟨0, none⟩

/-- The text of the sample, with carriage returns in front of the line breaks. -/
def sampleText : List Char :=
  "# of the workload cluster\x0d\napiVersion: v1\x0d\nusers:\x0d\n".toList ++
    "- user:\x0d\n    token: abc\x0d\n  name: admin@workload\x0d\n".toList ++
    "clusters:\x0d\n  - name: workload\x0d\n    cluster:\x0d\n".toList ++
    "      certificate-authority-data:\x0d\n        \x22Q0E=\x22\t# CA\x0d\n".toList ++
    "      server: https://10.23.25.101:6443\x0d\n".toList

theorem lists_sample :
    Lists sample [⟨⟨"workload".toList, by decide⟩, some ⟨"Q0E=".toList, by decide⟩⟩]
      [⟨⟨"admin@workload".toList, by decide⟩, none⟩] where
  clusters := ⟨_, _, rfl, rfl, .cons ⟨_, _, _, _, rfl, rfl, rfl, rfl, rfl, .given rfl rfl⟩ .nil⟩
  users := ⟨_, _, rfl, rfl, .cons ⟨_, _, _, _, rfl, rfl, rfl, rfl, rfl, .absent rfl⟩ .nil⟩

/-- The sample has one cluster with a certificate and one user without. -/
theorem parse_of_lists_sample :
    normalizeBreaks sampleText = sample.text ∧
      parse sampleText = some ⟨[⟨"workload", some "Q0E="⟩], [⟨"admin@workload", none⟩]⟩ := by
  have htext : normalizeBreaks sampleText = sample.text := by decide +kernel
  exact ⟨htext, parse_of_lists lists_sample htext⟩

end CertRenewal.Kubeconfig
