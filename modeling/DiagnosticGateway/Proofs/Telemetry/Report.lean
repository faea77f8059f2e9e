/-
Module: DiagnosticGateway.Proofs.Telemetry.Report
Purpose: What a receiver finds in a report.
Main exports:
  Report.Lists, Report.lists_encode, Report.carried_of_mem_takeRecords,
  TelemetryStore.Gathered
-/
import DiagnosticGateway.Proofs.Telemetry.Record
import DiagnosticGateway.Proofs.Telemetry.Store

/-!
A report of as many records as its count byte can announce is found whole, record by record.  Records
that came in a report are found unchanged when they are passed on in another one, and so are the
records that a store keeps of them.
-/

namespace DiagnosticGateway

open Octets
open TelemetryCodec (carried)

variable {Record : Type} [TelemetryRecord Record]

namespace Report

/-- A payload is a report of exactly these records: all that it announces are there, and nothing
follows them. -/
structure Lists (payload : Octets) (records : List Record) : Prop where
  parsed : parse payload =
    .ok
      { declaredCount := UInt8.ofNat records.length
        records := records
        truncated := false }
  announced : (UInt8.ofNat records.length).toNat = records.length
  noneLeft : payload.length = 1 + records.length * TelemetryRecord.width Record

variable [TelemetryCodec Record]

/-! ## Writing and reading -/

theorem length_flatMap_encode (records : List Record) :
    (records.flatMap TelemetryRecord.encode).length =
      records.length * TelemetryRecord.width Record := by
  induction records with
  | nil => exact (Nat.zero_mul _).symm
  | cons record records inductionHypothesis =>
      rw [List.flatMap_cons, List.length_append, TelemetryCodec.length_encode, inductionHypothesis,
        List.length_cons, Nat.succ_mul, Nat.add_comm]

/-- Records in a row are found one after the other, whatever follows them. -/
theorem takeRecords_flatMap_encode (records : List Record) (rest : Octets) :
    takeRecords records.length (records.flatMap TelemetryRecord.encode ++ rest) =
      records.map carried := by
  induction records with
  | nil => rfl
  | cons record records inductionHypothesis =>
      have read := TelemetryCodec.reads_encode record
        (records.flatMap TelemetryRecord.encode ++ rest)
      rw [List.flatMap_cons, List.append_assoc, List.length_cons, takeRecords, read]
      exact congrArg _ inductionHypothesis

/-- A report that the count byte can announce is found whole. -/
theorem lists_encode {records : List Record} (few : records.length ≤ maximumCount) :
    Lists (encode records) (records.map carried) := by
  have all : records.take maximumCount = records := List.take_of_length_le few
  have announced : (UInt8.ofNat records.length).toNat = records.length :=
    UInt8.toNat_ofNat_of_lt' (Nat.lt_succ_of_le few)
  have found := takeRecords_flatMap_encode records []
  rw [List.append_nil] at found
  refine ⟨?_, ?_, ?_⟩
  · rw [encode, all, Nat.min_eq_left few, parse, announced, found, List.length_map]
    simp
  · rwa [List.length_map]
  · rw [encode, all, List.length_cons, length_flatMap_encode, List.length_map, Nat.add_comm]

/-! ## Passing on -/

/-- A record that came in a report is found unchanged in another one. -/
theorem carried_of_mem_takeRecords {record : Record} {count : Nat} {bytes : Octets}
    (member : record ∈ takeRecords count bytes) : carried record = record := by
  induction count generalizing bytes with
  | zero => cases member
  | succ count inductionHypothesis =>
      rw [takeRecords] at member
      split at member
      · rename_i first rest taken
        rcases List.mem_cons.mp member with rfl | later
        · exact TelemetryCodec.carried_of_take taken
        · exact inductionHypothesis later
      · cases member

end Report

namespace TelemetryStore

variable [TelemetryCodec Record]

/-- A list of stored records sums up records that have come in reports. -/
def Gathered (stored : List Record) : Prop :=
  ∃ received, stored = summary received ∧ ∀ record ∈ received, carried record = record

namespace Gathered

variable {stored records : List Record}

theorem nil : Gathered ([] : List Record) := ⟨[], rfl, nofun⟩

theorem merge (gathered : Gathered stored) (unchanged : ∀ record ∈ records, carried record = record) :
    Gathered (merge stored records) := by
  obtain ⟨received, rfl, before⟩ := gathered
  refine ⟨received ++ records, ?_, ?_⟩
  · rw [← merge_eq_summary, ← merge_eq_summary, merge_append]
  · intro record member
    rcases List.mem_append.mp member with old | new
    · exact before record old
    · exact unchanged record new

/-- At most 254 records are stored, and no two of them are of one unit. -/
theorem bounded (gathered : Gathered stored) : stored.length ≤ 254 := by
  obtain ⟨received, rfl, -⟩ := gathered
  exact (summarizes_summary received).bounded

theorem distinct (gathered : Gathered stored) :
    (stored.map TelemetryRecord.ecuId).Nodup := by
  obtain ⟨received, rfl, -⟩ := gathered
  exact (summarizes_summary received).distinct

theorem carried_of_mem (gathered : Gathered stored) :
    ∀ record ∈ stored, carried record = record := by
  obtain ⟨received, rfl, unchanged⟩ := gathered
  intro record member
  have latest := (summarizes_summary received).latest record member
  exact unchanged record (List.mem_reverse.mp (List.mem_of_find?_eq_some latest))

end Gathered

end TelemetryStore

end DiagnosticGateway
