/-
Module: DiagnosticGateway.Proofs.Telemetry.Stride
Purpose: Which stretch of a report each of its records is read from.
Main exports:
  TelemetryStride, Report.length_takeRecords, Report.reads_of_getElem?_takeRecords,
  Report.takeRecords_prefix_append, Report.ReadByStride, reports_read_by_stride
-/
import DiagnosticGateway.Proofs.Octets.FixedWidth
import DiagnosticGateway.Telemetry.Report

/-!
The records of a report lie one behind the other, each as wide as its kind.  A record is read from
its own stretch of the report and from nothing else, so a report that was cut short is read as far as
its bytes reach, and bytes behind the last record that was announced change nothing.
-/

namespace DiagnosticGateway

open Octets

/-- A kind of record that is read from as many bytes as it is wide, whatever these bytes are. -/
class TelemetryStride (Record : Type) [TelemetryRecord Record] : Prop where
  positive : 0 < TelemetryRecord.width Record
  fixedWidth : FixedWidth (TelemetryRecord.width Record)
    (TelemetryRecord.take : Octets → Option (Record × Octets))

/-! ## The kinds of record -/

theorem FixedText.fixedWidth_take (width : Nat) : FixedWidth width (FixedText.take width) :=
  (fixedWidth_takeBlock width).map read

theorem fixedWidth_takeFlag : FixedWidth 1 takeFlag := fixedWidth_takeByte.map (· != 0)

theorem VciRecord.fixedWidth_take : FixedWidth 48 VciRecord.take := by
  unfold VciRecord.take
  refine .bind (FixedText.fixedWidth_take 16) fun ecuId => ?_
  refine .bind (FixedText.fixedWidth_take 8) fun swVersion => ?_
  refine .bind (FixedText.fixedWidth_take 8) fun hwVersion => ?_
  refine .bind (FixedText.fixedWidth_take 16) fun serial => ?_
  exact .pure _

theorem HealthRecord.fixedWidth_take : FixedWidth 24 HealthRecord.take := by
  unfold HealthRecord.take
  refine .bind (FixedText.fixedWidth_take 16) fun ecuId => ?_
  refine .bind fixedWidth_takeByte fun status => ?_
  refine .bind fixedWidth_takeByte fun troubleCodes => ?_
  refine .bind fixedWidth_takeWord16 fun batteryMillivolts => ?_
  refine .bind fixedWidth_takeByte fun rawTemperature => ?_
  refine .bind (fixedWidth_takeBlock 3) fun unused => ?_
  exact .pure _

theorem ReadinessRecord.fixedWidth_take : FixedWidth 27 ReadinessRecord.take := by
  unfold ReadinessRecord.take
  refine .bind (FixedText.fixedWidth_take 16) fun ecuId => ?_
  refine .bind fixedWidth_takeFlag fun vehicleParked => ?_
  refine .bind fixedWidth_takeFlag fun engineOff => ?_
  refine .bind fixedWidth_takeWord16 fun batteryMillivolts => ?_
  refine .bind fixedWidth_takeWord32 fun availableMemoryKb => ?_
  refine .bind fixedWidth_takeFlag fun allDoorsClosed => ?_
  refine .bind fixedWidth_takeFlag fun compatible => ?_
  refine .bind fixedWidth_takeFlag fun readyForUpdate => ?_
  exact .pure _

instance : TelemetryStride VciRecord where
  positive := by decide
  fixedWidth := VciRecord.fixedWidth_take

instance : TelemetryStride HealthRecord where
  positive := by decide
  fixedWidth := HealthRecord.fixedWidth_take

instance : TelemetryStride ReadinessRecord where
  positive := by decide
  fixedWidth := ReadinessRecord.fixedWidth_take

namespace Report

variable {Record : Type} [TelemetryRecord Record] [TelemetryStride Record]

/-! ## Records in a row -/

theorem takeRecords_of_short {body : Octets} (short : body.length < TelemetryRecord.width Record)
    (count : Nat) : (takeRecords count body : List Record) = [] := by
  cases count with
  | zero => rfl
  | succ count => rw [takeRecords, TelemetryStride.fixedWidth.short body short]

/-- The first record is read from the first stretch, and the others from what is behind it. -/
theorem takeRecords_succ {body : Octets} (enough : TelemetryRecord.width Record ≤ body.length)
    (count : Nat) :
    ∃ record : Record,
      Reads TelemetryRecord.take (body.take (TelemetryRecord.width Record)) record ∧
        takeRecords (count + 1) body =
          record :: takeRecords count (body.drop (TelemetryRecord.width Record)) := by
  obtain ⟨record, reads⟩ : ∃ record : Record, Reads TelemetryRecord.take
      (body.take (TelemetryRecord.width Record)) record :=
    TelemetryStride.fixedWidth.exists_reads enough
  have whole := reads (body.drop (TelemetryRecord.width Record))
  rw [List.take_append_drop] at whole
  refine ⟨record, reads, ?_⟩
  rw [takeRecords, whole]

/-- As many records are read as are announced and are there whole. -/
theorem length_takeRecords (count : Nat) (body : Octets) :
    (takeRecords count body : List Record).length =
      min count (body.length / TelemetryRecord.width Record) := by
  have positive : 0 < TelemetryRecord.width Record := TelemetryStride.positive
  induction count generalizing body with
  | zero => exact (Nat.zero_min _).symm
  | succ count inductionHypothesis =>
      by_cases short : body.length < TelemetryRecord.width Record
      · rw [takeRecords_of_short short, Nat.div_eq_of_lt short, Nat.min_zero, List.length_nil]
      · have enough := Nat.le_of_not_lt short
        obtain ⟨record, -, taken⟩ := takeRecords_succ enough count
        rw [taken, List.length_cons, inductionHypothesis, List.length_drop,
          Nat.div_eq_sub_div positive enough, Nat.succ_min_succ]

/-- The record at a place is read from the stretch that belongs to it. -/
theorem reads_of_getElem?_takeRecords {count index : Nat} {body : Octets} {record : Record}
    (found : (takeRecords count body)[index]? = some record) :
    Reads TelemetryRecord.take
      ((body.drop (index * TelemetryRecord.width Record)).take (TelemetryRecord.width Record))
      record := by
  induction count generalizing body index with
  | zero => cases found
  | succ count inductionHypothesis =>
      by_cases short : body.length < TelemetryRecord.width Record
      · rw [takeRecords_of_short short] at found
        cases found
      · obtain ⟨first, reads, taken⟩ := takeRecords_succ (Nat.le_of_not_lt short) count
        rw [taken] at found
        cases index with
        | zero =>
            cases found
            rw [Nat.zero_mul, List.drop_zero]
            exact reads
        | succ index =>
            have later := inductionHypothesis found
            rw [List.drop_drop, Nat.add_comm, ← Nat.succ_mul] at later
            exact later

/-- Of a report that was cut short the records in front are read as before. -/
theorem takeRecords_prefix_append (count : Nat) (kept removed : Octets) :
    (takeRecords count kept : List Record) <+: takeRecords count (kept ++ removed) := by
  induction count generalizing kept with
  | zero => exact List.prefix_rfl
  | succ count inductionHypothesis =>
      rw [takeRecords]
      split
      · rename_i record rest taken
        obtain ⟨enough, reads, rfl⟩ := TelemetryStride.fixedWidth.reads_of_taken taken
        have longer : TelemetryRecord.take (kept ++ removed) =
            some (record, kept.drop (TelemetryRecord.width Record) ++ removed) := by
          have read := reads (kept.drop (TelemetryRecord.width Record) ++ removed)
          rwa [← List.append_assoc, List.take_append_drop] at read
        rw [takeRecords, longer]
        exact (List.prefix_cons_inj record).mpr (inductionHypothesis _)
      · exact List.nil_prefix

/-! ## Reports -/

/-- Reports of a kind are read stride by stride. -/
structure ReadByStride (Record : Type) [TelemetryRecord Record] (kind : TelemetryKind)
    (stride : Nat) : Prop where
  /-- Behind a count byte anything is a report.  Its records are as many as are announced and are
  there whole, each read from its own stretch; it is truncated if fewer bytes are there than are
  announced, and only then. -/
  read : ∀ count body, ∃ report : Report Record, parse (count :: body) = .ok report ∧
    report.declaredCount = count ∧
    report.records.length = min count.toNat (body.length / stride) ∧
    (∀ index record, report.records[index]? = some record →
      Reads TelemetryRecord.take ((body.drop (index * stride)).take stride) record) ∧
    (report.truncated = true ↔ body.length < count.toNat * stride)
  /-- Cutting off bytes at the end takes away records at the end and changes no other. -/
  cut : ∀ count kept removed, ∀ shorter whole : Report Record,
    parse (count :: kept) = .ok shorter → parse (count :: (kept ++ removed)) = .ok whole →
      shorter.records <+: whole.records
  refused : ∀ payload fault,
    (parse payload : Except TelemetryFault (Report Record)) = .error fault ↔
      payload = [] ∧ fault = .empty kind

/-- Fewer records than were announced are found exactly in too few bytes. -/
theorem length_takeRecords_lt_iff {count : Nat} {body : Octets} :
    (takeRecords count body : List Record).length < count ↔
      body.length < count * TelemetryRecord.width Record := by
  have positive : 0 < TelemetryRecord.width Record := TelemetryStride.positive
  rw [length_takeRecords, ← Nat.div_lt_iff_lt_mul positive]
  omega

theorem readByStride :
    ReadByStride Record (TelemetryRecord.kind Record) (TelemetryRecord.width Record) where
  read count body := by
    refine ⟨_, rfl, rfl, length_takeRecords count.toNat body, ?_, ?_⟩
    · intro index record found
      exact reads_of_getElem?_takeRecords found
    · exact decide_eq_true_iff.trans length_takeRecords_lt_iff
  cut count kept removed shorter whole shorterParsed wholeParsed := by
    cases shorterParsed
    cases wholeParsed
    exact takeRecords_prefix_append count.toNat kept removed
  refused payload fault := by
    cases payload with
    | nil =>
        constructor
        · rintro ⟨⟩
          exact ⟨rfl, rfl⟩
        · rintro ⟨-, rfl⟩
          rfl
    | cons count body =>
        constructor
        · rintro ⟨⟩
        · rintro ⟨⟨⟩, -⟩

end Report

/-- The reports of every kind are read stride by stride: 48 bytes a record for vehicle configuration,
24 for health and 27 for update readiness. -/
theorem reports_read_by_stride :
    Report.ReadByStride VciRecord .vci 48 ∧ Report.ReadByStride HealthRecord .health 24 ∧
      Report.ReadByStride ReadinessRecord .readiness 27 :=
  ⟨Report.readByStride, Report.readByStride, Report.readByStride⟩

/-- Two health records are announced, and the second has lost its last byte. -/
theorem reports_read_by_stride_sample :
    ∃ report : Report HealthRecord, Report.parse (2 :: List.replicate 47 0x41) = .ok report ∧
      report.records.length = 1 ∧ report.truncated = true ∧
      ∀ whole : Report HealthRecord, Report.parse (2 :: List.replicate 48 0x41) = .ok whole →
        report.records <+: whole.records := by
  obtain ⟨-, health, -⟩ := reports_read_by_stride
  obtain ⟨report, parsed, -, length, -, truncated⟩ := health.read 2 (List.replicate 47 0x41)
  rw [List.length_replicate] at length truncated
  exact ⟨report, parsed, length, truncated.mpr (by decide),
    fun whole => health.cut 2 (List.replicate 47 0x41) [0x41] report whole parsed⟩

end DiagnosticGateway
