/-
Module: DiagnosticGateway.Telemetry.Store
Purpose: The records that control units have reported during a session.
Main exports:
  TelemetryStore, TelemetryStore.put, TelemetryStore.merge
-/
import DiagnosticGateway.Telemetry.Report

/-!
A store keeps one record per control unit and kind, in the order in which the units first reported.
A new record of a known unit takes the place of the old one; a record of a new unit is appended as
long as there is room.  The room leaves one place in a report for the gateway's own record.
-/

namespace DiagnosticGateway

/-- The records kept of each kind. -/
structure TelemetryStore where
  vci : List VciRecord := []
  health : List HealthRecord := []
  readiness : List ReadinessRecord := []
deriving DecidableEq

namespace TelemetryStore

/-- The most records kept of one kind. -/
def capacity : Nat := Report.maximumCount - 1

section

variable {Record : Type} [TelemetryRecord Record]

/-- Whether two records are about the same control unit. -/
def sameUnit (first second : Record) : Bool :=
  TelemetryRecord.ecuId first == TelemetryRecord.ecuId second

/-- Keep one record. -/
def put (stored : List Record) (record : Record) : List Record :=
  if stored.any (sameUnit · record) then
    stored.map fun old => if sameUnit old record then record else old
  else if stored.length < capacity then stored ++ [record]
  else stored

/-- Keep the records of a report, in their order. -/
def merge (stored records : List Record) : List Record := records.foldl put stored

/-- The records of a full report: the gateway's own, then those of other units. -/
def withOwn (own : Record) (stored : List Record) : List Record :=
  own :: stored.filter fun record => !sameUnit record own

end

end TelemetryStore

end DiagnosticGateway
