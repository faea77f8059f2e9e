/-
Module: DiagnosticGateway.Proofs.Telemetry.Record
Purpose: What is found where a record was written.
Main exports:
  TelemetryCodec, VciRecord.Legible, HealthRecord.Legible, ReadinessRecord.Legible,
  Identity.carried_vciRecord, Identity.temperature_healthRecord
-/
import DiagnosticGateway.Config.Basic
import DiagnosticGateway.Proofs.Telemetry.Text

/-!
A record fills its width whatever it holds, so that a reader never loses the place of the next one.
The record that is found may have shorter texts than the one that was written; a record that was
itself read from bytes is found unchanged.
-/

namespace DiagnosticGateway

open Octets

/-- A kind of record whose writer and reader fit together. -/
class TelemetryCodec (Record : Type) [TelemetryRecord Record] where
  /-- The record that is found where a record was written. -/
  carried : Record → Record
  length_encode (record : Record) :
    (TelemetryRecord.encode record).length = TelemetryRecord.width Record
  reads_encode (record : Record) :
    Reads TelemetryRecord.take (TelemetryRecord.encode record) (carried record)
  carried_of_take {bytes rest : Octets} {record : Record}
    (taken : TelemetryRecord.take bytes = some (record, rest)) : carried record = record
  ecuId_carried (record : Record) :
    TelemetryRecord.ecuId (carried record) = FixedText.carried 16 (TelemetryRecord.ecuId record)

theorem reads_takeFlag (flag : Bool) : Reads takeFlag [ofFlag flag] flag := by
  intro rest
  cases flag <;> rfl

/-! ## Vehicle configuration -/

namespace VciRecord

/-- The record that is found where a record was written. -/
def carried (record : VciRecord) : VciRecord :=
  { ecuId := FixedText.carried 16 record.ecuId
    swVersion := FixedText.carried 8 record.swVersion
    hwVersion := FixedText.carried 8 record.hwVersion
    serial := FixedText.carried 16 record.serial }

/-- A record all of whose texts their fields hold as they are. -/
structure Legible (record : VciRecord) : Prop where
  ecuId : FixedText.Legible 16 record.ecuId
  swVersion : FixedText.Legible 8 record.swVersion
  hwVersion : FixedText.Legible 8 record.hwVersion
  serial : FixedText.Legible 16 record.serial

theorem carried_of_legible {record : VciRecord} (legible : record.Legible) :
    record.carried = record := by
  simp only [carried, FixedText.carried_of_legible legible.ecuId,
    FixedText.carried_of_legible legible.swVersion, FixedText.carried_of_legible legible.hwVersion,
    FixedText.carried_of_legible legible.serial]

theorem reads_encode (record : VciRecord) : Reads take record.encode record.carried := by
  unfold take encode
  refine .bind (FixedText.reads_write 16 record.ecuId) ?_
  refine .bind (FixedText.reads_write 8 record.swVersion) ?_
  refine .bind (FixedText.reads_write 8 record.hwVersion) ?_
  intro rest
  dsimp only
  rw [FixedText.reads_write 16 record.serial rest]
  rfl

theorem legible_of_take {bytes rest : Octets} {record : VciRecord}
    (taken : take bytes = some (record, rest)) : record.Legible := by
  obtain ⟨⟨ecuId, behindId⟩, idTaken, taken⟩ := Option.bind_eq_some_iff.mp taken
  obtain ⟨⟨swVersion, behindSw⟩, swTaken, taken⟩ := Option.bind_eq_some_iff.mp taken
  obtain ⟨⟨hwVersion, behindHw⟩, hwTaken, taken⟩ := Option.bind_eq_some_iff.mp taken
  obtain ⟨⟨serial, behindSerial⟩, serialTaken, taken⟩ := Option.bind_eq_some_iff.mp taken
  cases taken
  exact ⟨FixedText.legible_of_take idTaken, FixedText.legible_of_take swTaken,
    FixedText.legible_of_take hwTaken, FixedText.legible_of_take serialTaken⟩

instance : TelemetryCodec VciRecord where
  carried := carried
  length_encode := length_encode
  reads_encode := reads_encode
  carried_of_take taken := carried_of_legible (legible_of_take taken)
  ecuId_carried _ := rfl

end VciRecord

/-! ## Health -/

namespace HealthStatus

/-- Four codes have a meaning, and every other one is kept as it is. -/
theorem ofCode_eq_unassigned_iff {code other : UInt8} :
    ofCode code = .unassigned other ↔ code = other ∧ 3 < code := by
  unfold ofCode
  split <;> simp_all [UInt8.lt_iff_toNat_lt, ← UInt8.toNat_inj]
  omega

/-- A status is the meaning of its own code, unless an assigned code hides behind `unassigned`. -/
theorem ofCode_code_of_named {status : HealthStatus}
    (named : ∀ code, status = .unassigned code → 3 < code) : ofCode status.code = status := by
  cases status with
  | ok => rfl
  | warning => rfl
  | error => rfl
  | critical => rfl
  | unassigned code => exact ofCode_eq_unassigned_iff.mpr ⟨rfl, named code rfl⟩

theorem named_ofCode (code other : UInt8) (kept : ofCode code = .unassigned other) : 3 < other := by
  obtain ⟨rfl, beyond⟩ := ofCode_eq_unassigned_iff.mp kept
  exact beyond

end HealthStatus

namespace HealthRecord

/-- The record that is found where a record was written. -/
def carried (record : HealthRecord) : HealthRecord :=
  { record with
    ecuId := FixedText.carried 16 record.ecuId
    status := .ofCode record.status.code }

/-- A record whose name its field holds as it is, and in whose status no assigned code hides behind
`unassigned`. -/
structure Legible (record : HealthRecord) : Prop where
  ecuId : FixedText.Legible 16 record.ecuId
  status : ∀ code, record.status = .unassigned code → 3 < code

theorem carried_of_legible {record : HealthRecord} (legible : record.Legible) :
    record.carried = record := by
  have status : .ofCode record.status.code = record.status :=
    HealthStatus.ofCode_code_of_named legible.status
  simp only [carried, FixedText.carried_of_legible legible.ecuId, status]

theorem reads_encode (record : HealthRecord) : Reads take record.encode record.carried := by
  unfold take encode
  refine .bind (FixedText.reads_write 16 record.ecuId) ?_
  refine .cons ?_
  refine .cons ?_
  refine .bind (reads_takeWord16 record.batteryMillivolts) ?_
  refine .cons ?_
  intro rest
  rfl

theorem legible_of_take {bytes rest : Octets} {record : HealthRecord}
    (taken : take bytes = some (record, rest)) : record.Legible := by
  obtain ⟨⟨ecuId, behindId⟩, idTaken, taken⟩ := Option.bind_eq_some_iff.mp taken
  obtain ⟨⟨status, behindStatus⟩, -, taken⟩ := Option.bind_eq_some_iff.mp taken
  obtain ⟨⟨troubleCodes, behindCodes⟩, -, taken⟩ := Option.bind_eq_some_iff.mp taken
  obtain ⟨⟨battery, behindBattery⟩, -, taken⟩ := Option.bind_eq_some_iff.mp taken
  obtain ⟨⟨temperature, behindTemperature⟩, -, taken⟩ := Option.bind_eq_some_iff.mp taken
  obtain ⟨⟨reserved, behindReserved⟩, -, taken⟩ := Option.bind_eq_some_iff.mp taken
  cases taken
  exact ⟨FixedText.legible_of_take idTaken, HealthStatus.named_ofCode status⟩

instance : TelemetryCodec HealthRecord where
  carried := carried
  length_encode := length_encode
  reads_encode := reads_encode
  carried_of_take taken := carried_of_legible (legible_of_take taken)
  ecuId_carried _ := rfl

end HealthRecord

/-! ## Update readiness -/

namespace ReadinessRecord

/-- The record that is found where a record was written. -/
def carried (record : ReadinessRecord) : ReadinessRecord :=
  { record with ecuId := FixedText.carried 16 record.ecuId }

/-- A record whose name its field holds as it is. -/
structure Legible (record : ReadinessRecord) : Prop where
  ecuId : FixedText.Legible 16 record.ecuId

theorem carried_of_legible {record : ReadinessRecord} (legible : record.Legible) :
    record.carried = record := by
  simp only [carried, FixedText.carried_of_legible legible.ecuId]

theorem reads_encode (record : ReadinessRecord) : Reads take record.encode record.carried := by
  unfold take encode
  refine .bind (FixedText.reads_write 16 record.ecuId) ?_
  refine .bind (reads_takeFlag record.vehicleParked) ?_
  refine .bind (reads_takeFlag record.engineOff) ?_
  refine .bind (reads_takeWord16 record.batteryMillivolts) ?_
  refine .bind (reads_takeWord32 record.availableMemoryKb) ?_
  refine .bind (reads_takeFlag record.allDoorsClosed) ?_
  refine .bind (reads_takeFlag record.compatible) ?_
  intro rest
  dsimp only
  rw [reads_takeFlag record.readyForUpdate rest]
  rfl

theorem legible_of_take {bytes rest : Octets} {record : ReadinessRecord}
    (taken : take bytes = some (record, rest)) : record.Legible := by
  obtain ⟨⟨ecuId, behindId⟩, idTaken, taken⟩ := Option.bind_eq_some_iff.mp taken
  obtain ⟨⟨parked, behindParked⟩, -, taken⟩ := Option.bind_eq_some_iff.mp taken
  obtain ⟨⟨engineOff, behindEngine⟩, -, taken⟩ := Option.bind_eq_some_iff.mp taken
  obtain ⟨⟨battery, behindBattery⟩, -, taken⟩ := Option.bind_eq_some_iff.mp taken
  obtain ⟨⟨memory, behindMemory⟩, -, taken⟩ := Option.bind_eq_some_iff.mp taken
  obtain ⟨⟨doors, behindDoors⟩, -, taken⟩ := Option.bind_eq_some_iff.mp taken
  obtain ⟨⟨compatible, behindCompatible⟩, -, taken⟩ := Option.bind_eq_some_iff.mp taken
  obtain ⟨⟨ready, behindReady⟩, -, taken⟩ := Option.bind_eq_some_iff.mp taken
  cases taken
  exact ⟨FixedText.legible_of_take idTaken⟩

instance : TelemetryCodec ReadinessRecord where
  carried := carried
  length_encode := length_encode
  reads_encode := reads_encode
  carried_of_take taken := carried_of_legible (legible_of_take taken)
  ecuId_carried _ := rfl

end ReadinessRecord

/-! ## The gateway's own records -/

namespace Identity

variable {identity : Identity}

theorem carried_vciRecord (legible : identity.vci.Legible) :
    identity.vciRecord.carried = identity.vciRecord := VciRecord.carried_of_legible legible

theorem carried_healthRecord (legible : identity.vci.Legible) :
    identity.healthRecord.carried = identity.healthRecord :=
  HealthRecord.carried_of_legible ⟨legible.ecuId, HealthStatus.named_ofCode _⟩

theorem carried_readinessRecord (legible : identity.vci.Legible) :
    identity.readinessRecord.carried = identity.readinessRecord :=
  ReadinessRecord.carried_of_legible ⟨legible.ecuId⟩

/-- A temperature is told as the nearest one that a record can carry, as long as its sum with the
offset fits sixteen bits. -/
theorem temperature_healthRecord (fits : identity.health.temperature.toInt ≤ 32727) :
    identity.healthRecord.temperature.toInt =
      max (-40) (min identity.health.temperature.toInt 215) := by
  have lowest := identity.health.temperature.le_toInt
  have offset : HealthRecord.temperatureOffset.toInt = 40 := rfl
  have raised : (identity.health.temperature + HealthRecord.temperatureOffset).toNatClampNeg =
      (identity.health.temperature.toInt + 40).toNat := by
    rw [← Int16.toNat_toInt, Int16.toInt_add, offset, Int.bmod_eq_of_le] <;> omega
  have raw : identity.healthRecord.rawTemperature.toNat =
      min (identity.health.temperature.toInt + 40).toNat 255 := by
    simp only [healthRecord, raised, UInt8.toNat_ofNat']
    omega
  have narrow : identity.healthRecord.rawTemperature.toNat < 2 ^ 15 := by
    rw [raw]
    omega
  rw [HealthRecord.temperature, Int16.toInt_sub, Int16.toInt_ofNat_of_lt narrow, raw, offset,
    Int.bmod_eq_of_le] <;> omega

end Identity

end DiagnosticGateway
