/-
Module: DiagnosticGateway.Telemetry.Report
Purpose: Reports: a count byte and that many records.
Main exports:
  TelemetryFault, Report, Report.parse, Report.encode
-/
import DiagnosticGateway.Telemetry.Record

/-!
A report that ends early is no fault: the whole records at its front are kept and the report is
marked as truncated.  Bytes after the announced records are not looked at.  Only a payload without
even a count byte is refused.
-/

namespace DiagnosticGateway

/-- Why a report cannot be read. -/
inductive TelemetryFault where
  | empty (kind : TelemetryKind)
deriving DecidableEq

/-- The wording of a telemetry fault. -/
def TelemetryFault.message : TelemetryFault → String
  | .empty kind => s!"Empty {kind.name} report"

/-- What a report payload holds. -/
structure Report (Record : Type) where
  declaredCount : UInt8
  records : List Record
  truncated : Bool

namespace Report

variable {Record : Type} [TelemetryRecord Record]

/-- Read at most `count` records from the front, as far as the bytes reach. -/
def takeRecords : Nat → Octets → List Record
  | 0, _ => []
  | count + 1, bytes =>
      match TelemetryRecord.take bytes with
      | some (record, rest) => record :: takeRecords count rest
      | none => []

/-- Read a report from a payload. -/
def parse (payload : Octets) : Except TelemetryFault (Report Record) :=
  match payload with
  | [] => .error (.empty (TelemetryRecord.kind Record))
  | count :: body =>
      let records := takeRecords count.toNat body
      .ok
        { declaredCount := count
          records := records
          truncated := decide (records.length < count.toNat) }

/-- The most records that a count byte can announce. -/
def maximumCount : Nat := 255

/-- The payload of a report.  Records beyond the count byte's reach are left out. -/
def encode (records : List Record) : Octets :=
  UInt8.ofNat (min records.length maximumCount) ::
    (records.take maximumCount).flatMap TelemetryRecord.encode

end Report

end DiagnosticGateway
