/-
Module: DiagnosticGateway.Gateway.Routine
Purpose: The routines that collect records and send them on.
Main exports:
  RoutineSubject, RoutineRole, Routine, Routine.ofCode?, Gateway.controlRoutine
-/
import DiagnosticGateway.Gateway.Identification
import DiagnosticGateway.Uds.RoutineResult

/-!
For configuration records and for readiness records there are two routines each: one starts the
collection, the other sends the report and may only be started while the collection is.  Stopping
either of the two ends the collection.
-/

namespace DiagnosticGateway

/-- What a routine is about. -/
inductive RoutineSubject where
  | vci
  | readiness
deriving DecidableEq

/-- What a routine does. -/
inductive RoutineRole where
  | collect
  | sendReport
deriving DecidableEq

/-- A routine of the gateway. -/
structure Routine where
  subject : RoutineSubject
  role : RoutineRole
deriving DecidableEq

/-- The routine with an identifier, if there is one. -/
def Routine.ofCode? (code : UInt16) : Option Routine :=
  match code with
  | 0xF001 => some { subject := .vci, role := .collect }
  | 0xF002 => some { subject := .vci, role := .sendReport }
  | 0xF003 => some { subject := .readiness, role := .collect }
  | 0xF004 => some { subject := .readiness, role := .sendReport }
  | _ => none

/-- What is done with a routine. -/
inductive RoutineAction where
  | start
  | stop
  | results
deriving DecidableEq

/-- The action of a sub-function, if it has one. -/
def RoutineAction.ofCode? (code : UInt8) : Option RoutineAction :=
  match code with
  | 0x01 => some .start
  | 0x02 => some .stop
  | 0x03 => some .results
  | _ => none

namespace Gateway

/-- Whether the collection for a subject has been started. -/
def collecting (gateway : Gateway) : RoutineSubject → Bool
  | .vci => gateway.collectingVci
  | .readiness => gateway.checkingReadiness

/-- Start or end the collection for a subject. -/
def setCollecting (gateway : Gateway) (subject : RoutineSubject) (flag : Bool) : Gateway :=
  match subject with
  | .vci => { gateway with collectingVci := flag }
  | .readiness => { gateway with checkingReadiness := flag }

/-- The number of records that a report on a subject would hold. -/
def recordCount (gateway : Gateway) : RoutineSubject → Nat
  | .vci => gateway.vciRecords.length
  | .readiness => gateway.readinessRecords.length

/-- The frame of a report on a subject. -/
def reportFrame (gateway : Gateway) : RoutineSubject → Frame
  | .vci => .ofPayload .vciReport (Report.encode gateway.vciRecords)
  | .readiness => .ofPayload .readinessReport (Report.encode gateway.readinessRecords)

/-- The count byte of a routine's response. -/
def countByte (gateway : Gateway) (subject : RoutineSubject) : UInt8 :=
  UInt8.ofNat (min (gateway.recordCount subject) Report.maximumCount)

/-- Serve a request about a routine.  An unknown routine is refused before an unknown
sub-function. -/
def controlRoutine (gateway : Gateway) (subFunction : UInt8) (code : UInt16) : Served :=
  let succeed (count : Option UInt8) : Octets :=
    RoutineResult.toOctets
      { subFunction := subFunction, routine := code, status := some .success, count := count }
  let refuse (reason : ResponseCode) : Served :=
    .refuse gateway (.refused Service.routineControl reason)
  match Routine.ofCode? code, RoutineAction.ofCode? subFunction with
  | none, _ => refuse .requestOutOfRange
  | some _, none => refuse .subFunctionNotSupported
  | some { subject, role := .collect }, some .start =>
      { gateway := gateway.setCollecting subject true
        answer := .ok (succeed none)
        events := [.routineStarted code] }
  | some { subject, role := .sendReport }, some .start =>
      if gateway.collecting subject then
        { gateway := gateway
          answer := .ok (succeed (some (gateway.countByte subject)))
          followups := [gateway.reportFrame subject] }
      else refuse .requestSequenceError
  | some { subject, .. }, some .stop =>
      { gateway := gateway.setCollecting subject false, answer := .ok (succeed none) }
  | some { subject, .. }, some .results =>
      { gateway := gateway, answer := .ok (succeed (some (gateway.countByte subject))) }

end Gateway

end DiagnosticGateway
