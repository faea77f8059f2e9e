/-
Module: DiagnosticGateway.Payload.Diagnostic
Purpose: Diagnostic messages and their acknowledgements.
Main exports:
  DiagnosticMessage, DiagnosticNackCode, Acknowledgement
-/
import DiagnosticGateway.Frame.Basic
import DiagnosticGateway.Payload.Fault

/-!
A diagnostic message is two addresses and at least one byte of service data.  An acknowledgement,
positive or negative, is two addresses and a code; which of the two it is stands in the frame's
payload type.
-/

namespace DiagnosticGateway

/-- Service data on its way from one logical address to another. -/
structure DiagnosticMessage where
  source : UInt16
  target : UInt16
  userData : Octets
deriving DecidableEq

namespace DiagnosticMessage

/-- Bytes a message has at least: the addresses and one byte of service data. -/
def minimumLength : Nat := 5

/-- The payload of a message. -/
def toOctets (message : DiagnosticMessage) : Octets :=
  Octets.ofWord16 message.source ++ (Octets.ofWord16 message.target ++ message.userData)

/-- Read a message from a payload. -/
def parse (payload : Octets) : Except PayloadFault DiagnosticMessage :=
  match payload with
  | sourceHigh :: sourceLow :: targetHigh :: targetLow :: first :: rest =>
      .ok
        { source := Octets.word16 sourceHigh sourceLow
          target := Octets.word16 targetHigh targetLow
          userData := first :: rest }
  | short => .error (.tooShort .diagnosticMessage minimumLength short.length)

/-- The frame that carries a message. -/
def toFrame (message : DiagnosticMessage) : Frame :=
  .ofPayload .diagnosticMessage message.toOctets

end DiagnosticMessage

/-- Why a diagnostic message was not taken on. -/
inductive DiagnosticNackCode where
  | invalidSourceAddress
  | unknownTargetAddress
  | messageTooLarge
  | outOfMemory
  | targetUnreachable
  | unknownNetwork
  | transportProtocolError
  | unassigned (code : UInt8)
deriving DecidableEq

namespace DiagnosticNackCode

/-- The meaning of a code. -/
def ofCode (code : UInt8) : DiagnosticNackCode :=
  match code with
  | 0x02 => .invalidSourceAddress
  | 0x03 => .unknownTargetAddress
  | 0x04 => .messageTooLarge
  | 0x05 => .outOfMemory
  | 0x06 => .targetUnreachable
  | 0x07 => .unknownNetwork
  | 0x08 => .transportProtocolError
  | other => .unassigned other

/-- The code of a meaning. -/
def code : DiagnosticNackCode → UInt8
  | .invalidSourceAddress => 0x02
  | .unknownTargetAddress => 0x03
  | .messageTooLarge => 0x04
  | .outOfMemory => 0x05
  | .targetUnreachable => 0x06
  | .unknownNetwork => 0x07
  | .transportProtocolError => 0x08
  | .unassigned code => code

/-- The name of a code. -/
def name : DiagnosticNackCode → String
  | .invalidSourceAddress => "InvalidSourceAddress"
  | .unknownTargetAddress => "UnknownTargetAddress"
  | .messageTooLarge => "MessageTooLarge"
  | .outOfMemory => "OutOfMemory"
  | .targetUnreachable => "TargetUnreachable"
  | .unknownNetwork => "UnknownNetwork"
  | .transportProtocolError => "TransportProtocolError"
  | .unassigned code => s!"Unknown({code})"

/-- No code is lost by giving it a meaning. -/
@[simp] theorem code_ofCode (code : UInt8) : (ofCode code).code = code := by
  unfold ofCode
  split <;> rfl

end DiagnosticNackCode

/-- The receipt for a diagnostic message. -/
structure Acknowledgement where
  source : UInt16
  target : UInt16
  code : UInt8
deriving DecidableEq

namespace Acknowledgement

/-- Bytes an acknowledgement has at least. -/
def minimumLength : Nat := 5

/-- The message was taken on. -/
def positive (source target : UInt16) : Acknowledgement :=
  { source := source, target := target, code := 0x00 }

/-- The message was refused. -/
def negative (source target : UInt16) (reason : DiagnosticNackCode) : Acknowledgement :=
  { source := source, target := target, code := reason.code }

/-- The payload of an acknowledgement. -/
def toOctets (acknowledgement : Acknowledgement) : Octets :=
  Octets.ofWord16 acknowledgement.source ++
    (Octets.ofWord16 acknowledgement.target ++ [acknowledgement.code])

/-- Read an acknowledgement from a payload of the given type. -/
def parse (payloadType : PayloadType) (payload : Octets) :
    Except PayloadFault Acknowledgement :=
  match payload with
  | sourceHigh :: sourceLow :: targetHigh :: targetLow :: code :: _ =>
      .ok
        { source := Octets.word16 sourceHigh sourceLow
          target := Octets.word16 targetHigh targetLow
          code := code }
  | short => .error (.tooShort payloadType minimumLength short.length)

/-- The frame of a positive acknowledgement. -/
def toPositiveFrame (acknowledgement : Acknowledgement) : Frame :=
  .ofPayload .diagnosticMessageAck acknowledgement.toOctets

/-- The frame of a negative acknowledgement. -/
def toNegativeFrame (acknowledgement : Acknowledgement) : Frame :=
  .ofPayload .diagnosticMessageNack acknowledgement.toOctets

end Acknowledgement

end DiagnosticGateway
