/-
Module: DiagnosticGateway.Proofs.Telemetry.RoundTrip
Purpose: Records fill their stride, and the legible ones come back as they were written.
Main exports:
  TelemetryRecord.RoundTrips, TelemetryRecord.roundTrips, telemetry_records_round_trip
-/
import DiagnosticGateway.Proofs.Telemetry.Report
import DiagnosticGateway.Proofs.Telemetry.Stride

/-!
A record may be written with texts that its fields cannot hold, and what is read is then another
record; but it is read from the same bytes, so that the records behind it are not affected.  The
records that come back unchanged are the legible ones, and no others are ever read.
-/

namespace DiagnosticGateway

open Octets
open TelemetryCodec (carried)

namespace TelemetryRecord

/-- Records of a kind fill their stride, and come back as they were written if they are legible. -/
structure RoundTrips (Record : Type) [TelemetryRecord Record] (stride : Nat)
    (Legible : Record → Prop) : Prop where
  length_encode : ∀ record : Record, (encode record).length = stride
  /-- A report of at most 255 records holds all of them, each as it is read from its own bytes. -/
  parse_encode : ∀ records : List Record, records.length ≤ 255 →
    ∃ report : Report Record, Report.parse (Report.encode records) = .ok report ∧
      report.declaredCount.toNat = records.length ∧ report.truncated = false ∧
      List.Forall₂ (fun written found => Reads take (encode written) found) records report.records
  reads_encode_iff : ∀ record : Record, Reads take (encode record) record ↔ Legible record
  /-- Whatever bytes fill the stride, a legible record is read from them. -/
  exists_reads : ∀ bytes : Octets, bytes.length = stride →
    ∃ record : Record, Reads take bytes record ∧ Legible record ∧ Reads take (encode record) record

variable {Record : Type} [TelemetryRecord Record] [TelemetryCodec Record] {Legible : Record → Prop}

/-- The records that are read back as they were written are the legible ones. -/
theorem reads_encode_iff (unchanged : ∀ record : Record, Legible record → carried record = record)
    (found : ∀ bytes (record : Record) rest, take bytes = some (record, rest) → Legible record)
    (record : Record) : Reads take (encode record) record ↔ Legible record := by
  constructor
  · intro reads
    exact found _ record [] (reads [])
  · intro legible
    have reads := TelemetryCodec.reads_encode record
    rwa [unchanged record legible] at reads

/-- A report that the count byte can announce is read as the records that are found one by one. -/
theorem parse_encode {records : List Record} (few : records.length ≤ 255) :
    ∃ report : Report Record, Report.parse (Report.encode records) = .ok report ∧
      report.declaredCount.toNat = records.length ∧ report.truncated = false ∧
      List.Forall₂ (fun written found => Reads take (encode written) found) records
        report.records := by
  obtain ⟨parsed, announced, -⟩ := Report.lists_encode few
  rw [List.length_map] at announced
  refine ⟨_, parsed, ?_, rfl, ?_⟩
  · rw [List.length_map]
    exact announced
  · rw [List.forall₂_map_right_iff, List.forall₂_same]
    exact fun record _ => TelemetryCodec.reads_encode record

theorem roundTrips [TelemetryStride Record]
    (unchanged : ∀ record : Record, Legible record → carried record = record)
    (found : ∀ bytes (record : Record) rest, take bytes = some (record, rest) → Legible record) :
    RoundTrips Record (width Record) Legible where
  length_encode := TelemetryCodec.length_encode
  parse_encode _ few := parse_encode few
  reads_encode_iff := reads_encode_iff unchanged found
  exists_reads bytes length := by
    obtain ⟨record, reads⟩ : ∃ record : Record, Reads take bytes record :=
      TelemetryStride.fixedWidth.enough bytes length
    have read : take bytes = some (record, []) := by
      rw [← reads [], List.append_nil]
    have legible : Legible record := found bytes record [] read
    exact ⟨record, reads, legible, (reads_encode_iff unchanged found record).mpr legible⟩

end TelemetryRecord

/-- Records of every kind fill their stride whatever their texts are, so that a report of up to 255
of them is read to its end.  The records that come back as they were written are those whose texts
are ASCII, fit their fields and do not end in a NUL; and these are the records that are read,
whatever bytes there are. -/
theorem telemetry_records_round_trip :
    TelemetryRecord.RoundTrips VciRecord 48 VciRecord.Legible ∧
      TelemetryRecord.RoundTrips HealthRecord 24 HealthRecord.Legible ∧
      TelemetryRecord.RoundTrips ReadinessRecord 27 ReadinessRecord.Legible := by
  refine ⟨?vci, ?health, ?readiness⟩
  case vci =>
    apply TelemetryRecord.roundTrips
    · intro record legible
      exact VciRecord.carried_of_legible legible
    · intro bytes record rest taken
      exact VciRecord.legible_of_take taken
  case health =>
    apply TelemetryRecord.roundTrips
    · intro record legible
      exact HealthRecord.carried_of_legible legible
    · intro bytes record rest taken
      exact HealthRecord.legible_of_take taken
  case readiness =>
    apply TelemetryRecord.roundTrips
    · intro record legible
      exact ReadinessRecord.carried_of_legible legible
    · intro bytes record rest taken
      exact ReadinessRecord.legible_of_take taken

/-- A record in whose status an assigned code hides behind `unassigned`. -/
def sampleHiddenStatus : HealthRecord :=
  { ecuId := "ZCU_1"
    status := .unassigned 3
    troubleCodes := 2
    batteryMillivolts := 12400
    rawTemperature := 65 }

/-- The record fills its stride, and another one is read from it, which comes back. -/
theorem telemetry_records_round_trip_sample :
    sampleHiddenStatus.encode.length = 24 ∧
      ¬Reads HealthRecord.take sampleHiddenStatus.encode sampleHiddenStatus ∧
      ∃ found : HealthRecord, found.Legible ∧
        Reads HealthRecord.take sampleHiddenStatus.encode found ∧
        Reads HealthRecord.take found.encode found := by
  obtain ⟨-, health, -⟩ := telemetry_records_round_trip
  have length := health.length_encode sampleHiddenStatus
  have hidden : ¬sampleHiddenStatus.Legible := fun legible =>
    absurd (legible.status 3 rfl) (by decide)
  obtain ⟨found, read, legible, back⟩ := health.exists_reads sampleHiddenStatus.encode length
  exact ⟨length, mt (health.reads_encode_iff sampleHiddenStatus).mp hidden,
    found, legible, read, back⟩

end DiagnosticGateway
