/-
Module: DiagnosticGateway.Uds.RoutineResult
Purpose: The positive response of a routine.
Main exports:
  RoutineStatus, RoutineResult, RoutineResult.parse, RoutineResult.toOctets
-/
import DiagnosticGateway.Uds.Message

namespace DiagnosticGateway

/-- How a routine ended. -/
inductive RoutineStatus where
  | success
  | notConnected
  | sendError
  | unassigned (code : UInt8)
deriving DecidableEq

namespace RoutineStatus

/-- The meaning of a code. -/
def ofCode (code : UInt8) : RoutineStatus :=
  match code with
  | 0x00 => .success
  | 0x01 => .notConnected
  | 0x02 => .sendError
  | other => .unassigned other

/-- The code of a meaning. -/
def code : RoutineStatus → UInt8
  | .success => 0x00
  | .notConnected => 0x01
  | .sendError => 0x02
  | .unassigned code => code

/-- The name of a status. -/
def name : RoutineStatus → String
  | .success => "Success"
  | .notConnected => "NotConnected"
  | .sendError => "SendError"
  | .unassigned code => s!"Unknown({code})"

/-- No code is lost by giving it a meaning. -/
@[simp] theorem code_ofCode (code : UInt8) : (ofCode code).code = code := by
  unfold ofCode
  split <;> rfl

end RoutineStatus

/-- What a routine answers: the request's sub-function and routine, then a status and a count, each
of which may be missing. -/
structure RoutineResult where
  subFunction : UInt8
  routine : UInt16
  status : Option RoutineStatus
  count : Option UInt8
deriving DecidableEq

namespace RoutineResult

/-- Read a positive response.  A third byte of data is the status, a fourth the count. -/
def parse (message : UdsMessage) : Except UdsFault RoutineResult :=
  if message.isPositiveResponseTo Service.routineControl then
    match message.subFunction, message.data with
    | some subFunction, high :: low :: rest =>
        .ok
          { subFunction := subFunction
            routine := Octets.word16 high low
            status := rest[0]?.map .ofCode
            count := rest[1]? }
    | some _, _ => .error (.invalidFormat .missingRoutineIdentifier)
    | none, _ => .error (.invalidFormat .missingSubFunction)
  else .error (.invalidFormat (.notRoutineResponse message.service))

/-- The data of the response, after the service identifier. -/
def toOctets (result : RoutineResult) : Octets :=
  result.subFunction ::
    (Octets.ofWord16 result.routine ++
      ((result.status.map RoutineStatus.code).toList ++ result.count.toList))

end RoutineResult

end DiagnosticGateway
