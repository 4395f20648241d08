/-!
# Where a report goes

A sink takes bytes until its room is used up, and then fails; the bytes that still fit are taken
first. `Writing` is a computation that writes to a sink and stops at the first failure, with what
the sink has taken so far.
-/

namespace CertRenewal.Report

/-- How many more bytes a sink takes, and the error that it fails with then. -/
structure Limit where
  room : Nat
  fault : String
  deriving DecidableEq, Repr

/-- A number alone is the room that is left on a disk. -/
instance : Coe Nat Limit := ⟨fun room => ⟨room, "disk full"⟩⟩

/-- Bytes taken so far and how many more can be taken; `none` is any number. -/
structure Sink where
  taken : List UInt8
  limit : Option Limit
  deriving DecidableEq, Repr

/-- The failure of a sink that has no more room, with its error. -/
structure SinkFull where
  fault : String
  deriving DecidableEq, Repr

def SinkFull.message (e : SinkFull) : String := "Unable to write report: '" ++ e.fault ++ "'"

abbrev Writing := ExceptT SinkFull (StateM Sink)

def Sink.put (bytes : List UInt8) : Writing Unit := fun sink =>
  match sink.limit with
  | none => (.ok (), ⟨sink.taken ++ bytes, none⟩)
  | some ⟨room, fault⟩ =>
    if bytes.length ≤ room then
      (.ok (), ⟨sink.taken ++ bytes, some ⟨room - bytes.length, fault⟩⟩)
    else (.error ⟨fault⟩, ⟨sink.taken ++ bytes.take room, some ⟨0, fault⟩⟩)

end CertRenewal.Report
