/-
Module: DiagnosticGateway.Payload.GenericNack
Purpose: The refusal of a whole frame.
Main exports:
  GenericNackCode
-/
import DiagnosticGateway.Frame.Basic
import DiagnosticGateway.Payload.Fault

namespace DiagnosticGateway

/-- Why a frame was refused. -/
inductive GenericNackCode where
  | incorrectPattern
  | unknownPayloadType
  | messageTooLarge
  | outOfMemory
  | invalidPayloadLength
  | unassigned (code : UInt8)
deriving DecidableEq

namespace GenericNackCode

/-- The meaning of a code. -/
def ofCode (code : UInt8) : GenericNackCode :=
  match code with
  | 0x00 => .incorrectPattern
  | 0x01 => .unknownPayloadType
  | 0x02 => .messageTooLarge
  | 0x03 => .outOfMemory
  | 0x04 => .invalidPayloadLength
  | other => .unassigned other

/-- The code of a meaning. -/
def code : GenericNackCode → UInt8
  | .incorrectPattern => 0x00
  | .unknownPayloadType => 0x01
  | .messageTooLarge => 0x02
  | .outOfMemory => 0x03
  | .invalidPayloadLength => 0x04
  | .unassigned code => code

/-- The name of a code. -/
def name : GenericNackCode → String
  | .incorrectPattern => "IncorrectPattern"
  | .unknownPayloadType => "UnknownPayloadType"
  | .messageTooLarge => "MessageTooLarge"
  | .outOfMemory => "OutOfMemory"
  | .invalidPayloadLength => "InvalidPayloadLength"
  | .unassigned code => s!"Unknown({code})"

/-- No code is lost by giving it a meaning. -/
@[simp] theorem code_ofCode (code : UInt8) : (ofCode code).code = code := by
  unfold ofCode
  split <;> rfl

/-- Bytes a refusal has at least. -/
def minimumLength : Nat := 1

/-- The payload of a refusal. -/
def toOctets (reason : GenericNackCode) : Octets := [reason.code]

/-- Read a refusal from a payload. -/
def parse (payload : Octets) : Except PayloadFault GenericNackCode :=
  match payload with
  | code :: _ => .ok (.ofCode code)
  | [] => .error (.tooShort .genericNack minimumLength 0)

/-- The frame that carries a refusal. -/
def toFrame (reason : GenericNackCode) : Frame :=
  .ofPayload .genericNack reason.toOctets

end GenericNackCode

end DiagnosticGateway
