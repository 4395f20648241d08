import CertRenewal.Proofs.Text.Utf8
import CertRenewal.Report.Write
import Mathlib.Data.List.Basic

/-!
# The layout of the table

`Emits` says of a computation that it is one single write, whatever the sink: what is written in
pieces is taken, or cut off, as if it were written at once. `Emits.bind` puts two such writes into
one, from which the loops over rows and groups follow by induction.

`layout` is the table without a state: a section has its header when it has a row. `write_emits`
says that this is what is written, and `render_table` that it is the table of a report.
-/

namespace CertRenewal.Report

/-! ## One write -/

/-- A computation is one write of some bytes and gives a value. -/
def Emits {α : Type} (w : Writing α) (v : α) (bytes : List UInt8) : Prop :=
  w = do
    Sink.put bytes
    return v

/-- A computation goes on with the sink as it is left, unless it has failed. -/
theorem bind_apply {α β : Type} (w : Writing α) (f : α → Writing β) (sink : Sink) :
    (w >>= f) sink =
      match w sink with
      | (.ok v, sink) => f v sink
      | (.error e, sink) => (.error e, sink) := by
  show (match w sink with
    | (result, sink) => ExceptT.bindCont f result sink) = _
  obtain ⟨result, sink⟩ := w sink
  cases result <;> rfl

/-- To write in two pieces is to write the two at once. -/
theorem put_append (a b : List UInt8) :
    (do Sink.put a; Sink.put b : Writing Unit) = Sink.put (a ++ b) := by
  funext sink
  obtain ⟨taken, limit⟩ := sink
  rw [bind_apply]
  cases limit with
  | none => simp [Sink.put]
  | some limit =>
    obtain ⟨room, fault⟩ := limit
    -- The room ends behind the second piece, in it, or in the first.
    by_cases ha : a.length ≤ room
    · by_cases hb : b.length ≤ room - a.length
      · have hab : a.length + b.length ≤ room := by omega
        simp [Sink.put, ha, hb, hab, Nat.sub_sub]
      · have hab : ¬ a.length + b.length ≤ room := by omega
        simp [Sink.put, ha, hb, hab, List.take_append, List.take_of_length_le ha]
    · have hab : ¬ a.length + b.length ≤ room := by omega
      have hlt : room - a.length = 0 := by omega
      simp [Sink.put, ha, hab, List.take_append, hlt]

/-- To write nothing is to do nothing. -/
theorem put_nil : Sink.put [] = (pure () : Writing Unit) := by
  funext sink
  obtain ⟨taken, limit⟩ := sink
  show Sink.put [] ⟨taken, limit⟩ = (.ok (), ⟨taken, limit⟩)
  cases limit with
  | none => simp [Sink.put]
  | some limit => simp [Sink.put]

namespace Emits

variable {α β : Type}

theorem put (bytes : List UInt8) : Emits (Sink.put bytes) () bytes := by
  rw [Emits]
  simp

theorem pure (v : α) : Emits (Pure.pure v) v [] := by
  rw [Emits, put_nil, pure_bind]

/-- Two writes, one after the other, are one write. -/
theorem bind {w : Writing α} {v : α} {a : List UInt8} {f : α → Writing β} {u : β}
    {b : List UInt8} (hw : Emits w v a) (hf : Emits (f v) u b) : Emits (w >>= f) u (a ++ b) := by
  rw [Emits] at hw hf ⊢
  rw [hw, bind_assoc, pure_bind, hf, ← bind_assoc, put_append]

/-- What a sink that takes everything has taken. -/
theorem taken {w : Writing α} {v : α} {bytes : List UInt8} (h : Emits w v bytes) :
    (w.run ⟨[], none⟩).2.taken = bytes := by
  rw [h]
  rfl

end Emits

/-! ## The table -/

namespace Table

def header (s : Section) : List Char :=
  '\n' :: (s.title.toList ++ '\n' ::
    line "CERTIFICATE".toList s.location.toList "EXPIRY DATE".toList)

/-- The text of rows, with the header of their section when it is to be written. -/
def rowsText (s : Section) (headerWritten : Bool) (rows : List Row) : List Char :=
  (if headerWritten || rows.isEmpty then [] else header s) ++ rows.flatMap Row.text

def layout (r : Report) : List Char :=
  rowsText tlsSection false (r.tlsSecrets.flatMap tlsRows) ++
    rowsText kubeconfigSection false (r.kubeconfigs.flatMap kubeconfigRows) ++
    rowsText nodeSection false (r.nodes.flatMap nodeRows)

/-- The header is written before the first row. -/
theorem writeRow_emits (s : Section) (headerWritten : Bool) (row : Row) :
    Emits (writeRow s headerWritten row) true
      (Text.Utf8.encode (rowsText s headerWritten [row])) := by
  have hrow : Emits (do put row.text; return true) true (Text.Utf8.encode row.text) := by
    rw [← List.append_nil (Text.Utf8.encode row.text)]
    exact (Emits.put _).bind (Emits.pure true)
  cases headerWritten with
  | true =>
    have htext : rowsText s true [row] = row.text := by simp [rowsText]
    rw [htext]
    exact hrow
  | false =>
    have hwrite : writeRow s false row = do
        put ['\n']
        put (s.title.toList ++ ['\n'])
        put (line "CERTIFICATE".toList s.location.toList "EXPIRY DATE".toList)
        put row.text
        return true := rfl
    have htext : rowsText s false [row] = ['\n'] ++ (s.title.toList ++ ['\n'] ++
        (line "CERTIFICATE".toList s.location.toList "EXPIRY DATE".toList ++ row.text)) := by
      simp [rowsText, header]
    rw [hwrite, htext, Text.Utf8.encode_append, Text.Utf8.encode_append ( _ ++ ['\n']),
      Text.Utf8.encode_append (line _ _ _)]
    exact (Emits.put _).bind ((Emits.put _).bind ((Emits.put _).bind hrow))

/-- What is written of rows in two parts, where the header belongs to the first part that has a
row. -/
theorem rowsText_append (s : Section) (headerWritten : Bool) (rows more : List Row) :
    rowsText s headerWritten (rows ++ more) =
      rowsText s headerWritten rows ++ rowsText s (headerWritten || !rows.isEmpty) more := by
  cases rows with
  | nil => simp [rowsText]
  | cons row rest => simp [rowsText]

/-- The header is written in front of the first row, when it has not been written. -/
theorem writeRows_emits (s : Section) (headerWritten : Bool) (rows : List Row) :
    Emits (writeRows s headerWritten rows) (headerWritten || !rows.isEmpty)
      (Text.Utf8.encode (rowsText s headerWritten rows)) := by
  induction rows generalizing headerWritten with
  | nil =>
    rw [rowsText, List.isEmpty_nil, Bool.or_true, Bool.not_true, Bool.or_false]
    exact Emits.pure headerWritten
  | cons row rest ih =>
    have htext := rowsText_append s headerWritten [row] rest
    simp only [List.isEmpty_cons, Bool.not_false, Bool.or_true, List.singleton_append] at htext
    rw [htext, Text.Utf8.encode_append, List.isEmpty_cons, Bool.not_false, Bool.or_true]
    exact (writeRow_emits s headerWritten row).bind (ih true)

/-- The header stands once in front of all groups of a section. -/
theorem writeGroups_emits (s : Section) (headerWritten : Bool) (groups : List (List Row)) :
    Emits (writeGroups s headerWritten groups) (headerWritten || !groups.flatten.isEmpty)
      (Text.Utf8.encode (rowsText s headerWritten groups.flatten)) := by
  induction groups generalizing headerWritten with
  | nil =>
    rw [rowsText, List.flatten_nil, List.isEmpty_nil, Bool.or_true, Bool.not_true, Bool.or_false]
    exact Emits.pure headerWritten
  | cons rows rest ih =>
    have hflag : (headerWritten || !(rows ++ rest.flatten).isEmpty) =
        (headerWritten || !rows.isEmpty || !rest.flatten.isEmpty) := by
      cases rows <;> simp
    rw [List.flatten_cons, rowsText_append, Text.Utf8.encode_append, hflag]
    exact (writeRows_emits s headerWritten rows).bind (ih _)

/-- The table is written as its layout is. -/
theorem write_emits (r : Report) : Emits (write r) () (Text.Utf8.encode (layout r)) := by
  rw [layout, List.append_assoc, Text.Utf8.encode_append, Text.Utf8.encode_append,
    ← List.append_nil (Text.Utf8.encode (rowsText nodeSection false _))]
  exact (writeGroups_emits tlsSection false (r.tlsSecrets.map tlsRows)).bind
    ((writeGroups_emits kubeconfigSection false (r.kubeconfigs.map kubeconfigRows)).bind
      ((writeGroups_emits nodeSection false (r.nodes.map nodeRows)).bind (Emits.pure ())))

end Table

/-- The table of a report. -/
theorem render_table (r : Report) : r.render .table = Text.Utf8.encode (Table.layout r) :=
  (Table.write_emits r).taken

end CertRenewal.Report
