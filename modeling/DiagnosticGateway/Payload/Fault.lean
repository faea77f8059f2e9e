/-
Module: DiagnosticGateway.Payload.Fault
Purpose: A well-framed message whose payload does not fit its type.
Main exports:
  PayloadFault, PayloadFault.message
-/
import DiagnosticGateway.Frame.PayloadType

namespace DiagnosticGateway

/-- Why a payload cannot be read under its type. -/
inductive PayloadFault where
  | tooShort (payloadType : PayloadType) (need got : Nat)
deriving DecidableEq

/-- The wording of a payload fault. -/
def PayloadFault.message : PayloadFault → String
  | .tooShort payloadType need got =>
      s!"{payloadType.name} payload too short: need {need} bytes, got {got}"

end DiagnosticGateway
