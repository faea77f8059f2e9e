/-
Module: DiagnosticGateway.Gateway.Identification
Purpose: The data that the gateway gives about itself and the units it has heard of.
Main exports:
  Gateway.vciRecords, Gateway.healthRecords, Gateway.readinessRecords,
  DataIdentifier, Gateway.readData
-/
import DiagnosticGateway.Gateway.Basic

/-!
A consolidated answer is a report: the gateway's own record first, then the records of other units
in the order of the store.
-/

namespace DiagnosticGateway

namespace Gateway

def vciRecords (gateway : Gateway) : List VciRecord :=
  TelemetryStore.withOwn gateway.config.identity.vciRecord gateway.telemetry.vci

def healthRecords (gateway : Gateway) : List HealthRecord :=
  TelemetryStore.withOwn gateway.config.identity.healthRecord gateway.telemetry.health

def readinessRecords (gateway : Gateway) : List ReadinessRecord :=
  TelemetryStore.withOwn gateway.config.identity.readinessRecord gateway.telemetry.readiness

end Gateway

/-- The data that can be read. -/
inductive DataIdentifier where
  /-- The gateway's own configuration record. -/
  | vci
  /-- The configuration records of all known units. -/
  | consolidatedVci
  /-- The gateway's own health record, as a report. -/
  | health
  /-- The health records of all known units. -/
  | consolidatedHealth
deriving DecidableEq

namespace DataIdentifier

/-- The data with an identifier, if there is any. -/
def ofCode? (code : UInt16) : Option DataIdentifier :=
  match code with
  | 0xF194 => some .vci
  | 0xF195 => some .consolidatedVci
  | 0xF1A0 => some .health
  | 0xF1A1 => some .consolidatedHealth
  | _ => none

end DataIdentifier

namespace Gateway

/-- The bytes of the data with an identifier. -/
def dataOf (gateway : Gateway) : DataIdentifier → Octets
  | .vci => gateway.config.identity.vciRecord.encode
  | .consolidatedVci => Report.encode gateway.vciRecords
  | .health => Report.encode [gateway.config.identity.healthRecord]
  | .consolidatedHealth => Report.encode gateway.healthRecords

/-- Serve a request for data: the identifier, then the data. -/
def readData (gateway : Gateway) (identifier : UInt16) : Served :=
  match DataIdentifier.ofCode? identifier with
  | some data =>
      { gateway := gateway
        answer := .ok (Octets.ofWord16 identifier ++ gateway.dataOf data) }
  | none =>
      .refuse gateway (.refused Service.readDataByIdentifier .requestOutOfRange)

end Gateway

end DiagnosticGateway
