import CertRenewal.Proofs.Report.Emptiness

/-!
# A full sink cuts a report off

`text` is a report as a text in one of the formats, and `write_emits_text` says that to write the
report is one single write of its bytes, also in the format that is written in pieces. A single
write is easily followed to the point at which the sink is full, and `write_until_full` is that: the
sink has the front of the report as far as it has room, and the write fails exactly when that is not
all.
-/

namespace CertRenewal.Report

def text (r : Report) : Format → List Char
  | .table => Table.layout r
  | .yaml => if r.isEmpty then [] else Yaml.render r.toJson
  | .json => if r.isEmpty then [] else r.toJson.pretty ++ ['\n']

/-- A document is one write, and an empty one none. -/
theorem document_emits (isEmpty : Bool) (document : List Char) :
    Emits (if isEmpty then return () else Table.put document) ()
      (Text.Utf8.encode (if isEmpty then [] else document)) := by
  cases isEmpty with
  | true => exact Emits.pure ()
  | false => exact Emits.put _

/-- In each of the formats a report is one write of its text. -/
theorem write_emits_text (r : Report) (format : Format) :
    Emits (r.write format) () (Text.Utf8.encode (r.text format)) := by
  cases format with
  | table => exact Table.write_emits r
  | yaml => exact document_emits r.isEmpty r.yamlText
  | json => exact document_emits r.isEmpty r.jsonText

/-- What a sink without a limit gets is the text in bytes. -/
theorem render_eq_encode_text (r : Report) (format : Format) :
    r.render format = Text.Utf8.encode (r.text format) :=
  (write_emits_text r format).taken

/-- To write a report is to write its bytes at once. -/
theorem write_eq_put (r : Report) (format : Format) :
    r.write format = Sink.put (r.render format) := by
  have hwrite := write_emits_text r format
  unfold Emits at hwrite
  rw [hwrite, render_eq_encode_text]
  exact bind_pure_unit

/-! ## One write to a sink with a limit -/

section

variable {bytes : List UInt8} {room : Nat}

/-- Bytes for which there is room are taken, and use it up. -/
theorem put_within (h : bytes.length ≤ room) (taken : List UInt8) (fault : String) :
    Sink.put bytes ⟨taken, some ⟨room, fault⟩⟩ =
      (.ok (), ⟨taken ++ bytes, some ⟨room - bytes.length, fault⟩⟩) := by
  simp [Sink.put, h]

/-- Of more bytes than that the front is taken, and the write fails. -/
theorem put_beyond (h : room < bytes.length) (taken : List UInt8) (fault : String) :
    Sink.put bytes ⟨taken, some ⟨room, fault⟩⟩ =
      (.error ⟨fault⟩, ⟨taken ++ bytes.take room, some ⟨0, fault⟩⟩) := by
  simp [Sink.put, Nat.not_le.mpr h]

end

/-- A report that does not fit on a disk fails with the error of the disk, and the disk is full. -/
theorem write_beyond_disk (r : Report) (format : Format) {room : Nat}
    (h : room < (r.render format).length) :
    ∃ e, r.write format ⟨[], some (room : Limit)⟩ =
        (.error e, ⟨(r.render format).take room, some (0 : Nat)⟩) ∧
      e.message = "Unable to write report: 'disk full'" := by
  refine ⟨⟨"disk full"⟩, ?_, rfl⟩
  rw [write_eq_put]
  exact put_beyond h [] "disk full"

/-- A report that is written to a sink with room for some more bytes. The sink takes the front of
the report that it has room for, behind what it had, and nothing else; the write succeeds exactly
when that is the whole report, and otherwise fails with the error of the sink, whatever that is. -/
theorem write_until_full (r : Report) (format : Format) (taken : List UInt8) (room : Nat)
    (fault : String) :
    let full := r.render format
    let outcome := (r.write format).run ⟨taken, some ⟨room, fault⟩⟩
    outcome.2.taken = taken ++ full.take (min room full.length) ∧
      (outcome.1 = .ok () ↔ full.length ≤ room) ∧
      (outcome.1 = .error ⟨fault⟩ ↔ room < full.length) ∧
      full = Text.Utf8.encode (r.text format) := by
  intro full outcome
  have houtcome : outcome = Sink.put full ⟨taken, some ⟨room, fault⟩⟩ := by
    simp only [outcome, write_eq_put]
    rfl
  refine ⟨?_, ?_, ?_, render_eq_encode_text r format⟩
  · rcases Nat.lt_or_ge room full.length with hbeyond | hwithin
    · rw [houtcome, put_beyond hbeyond, Nat.min_eq_left (Nat.le_of_lt hbeyond)]
    · rw [houtcome, put_within hwithin, Nat.min_eq_right hwithin, List.take_length]
  · rcases Nat.lt_or_ge room full.length with hbeyond | hwithin
    · rw [houtcome, put_beyond hbeyond]
      simpa using hbeyond
    · rw [houtcome, put_within hwithin]
      simpa using hwithin
  · rcases Nat.lt_or_ge room full.length with hbeyond | hwithin
    · rw [houtcome, put_beyond hbeyond]
      exact iff_of_true rfl hbeyond
    · rw [houtcome, put_within hwithin]
      simpa using hwithin

end CertRenewal.Report
