/-
Module: DiagnosticGateway.Uds.ResponseCode
Purpose: The codes with which a diagnostic server refuses a request.
Main exports:
  ResponseCode, ResponseCode.ofCode, ResponseCode.code, ResponseCode.name
-/
import DiagnosticGateway.Text.Hex

namespace DiagnosticGateway

/-- A negative response code. -/
inductive ResponseCode where
  | generalReject
  | serviceNotSupported
  | subFunctionNotSupported
  | incorrectMessageLengthOrFormat
  | conditionsNotCorrect
  | requestSequenceError
  | requestOutOfRange
  | uploadDownloadNotAccepted
  | transferDataSuspended
  | generalProgrammingFailure
  | wrongBlockSequenceCounter
  | responsePending
  | unassigned (code : UInt8)
deriving DecidableEq

namespace ResponseCode

/-- The meaning of a code. -/
def ofCode (code : UInt8) : ResponseCode :=
  match code with
  | 0x10 => .generalReject
  | 0x11 => .serviceNotSupported
  | 0x12 => .subFunctionNotSupported
  | 0x13 => .incorrectMessageLengthOrFormat
  | 0x22 => .conditionsNotCorrect
  | 0x24 => .requestSequenceError
  | 0x31 => .requestOutOfRange
  | 0x70 => .uploadDownloadNotAccepted
  | 0x71 => .transferDataSuspended
  | 0x72 => .generalProgrammingFailure
  | 0x73 => .wrongBlockSequenceCounter
  | 0x78 => .responsePending
  | other => .unassigned other

/-- The code of a meaning. -/
def code : ResponseCode → UInt8
  | .generalReject => 0x10
  | .serviceNotSupported => 0x11
  | .subFunctionNotSupported => 0x12
  | .incorrectMessageLengthOrFormat => 0x13
  | .conditionsNotCorrect => 0x22
  | .requestSequenceError => 0x24
  | .requestOutOfRange => 0x31
  | .uploadDownloadNotAccepted => 0x70
  | .transferDataSuspended => 0x71
  | .generalProgrammingFailure => 0x72
  | .wrongBlockSequenceCounter => 0x73
  | .responsePending => 0x78
  | .unassigned code => code

/-- The name used in messages. -/
def name : ResponseCode → String
  | .generalReject => "GeneralReject"
  | .serviceNotSupported => "ServiceNotSupported"
  | .subFunctionNotSupported => "SubFunctionNotSupported"
  | .incorrectMessageLengthOrFormat => "IncorrectMessageLengthOrFormat"
  | .conditionsNotCorrect => "ConditionsNotCorrect"
  | .requestSequenceError => "RequestSequenceError"
  | .requestOutOfRange => "RequestOutOfRange"
  | .uploadDownloadNotAccepted => "UploadDownloadNotAccepted"
  | .transferDataSuspended => "TransferDataSuspended"
  | .generalProgrammingFailure => "GeneralProgrammingFailure"
  | .wrongBlockSequenceCounter => "WrongBlockSequenceCounter"
  | .responsePending => "ResponsePending"
  | .unassigned code => s!"Unknown(0x{Hex.byte code})"

/-- No code is lost by giving it a meaning. -/
@[simp] theorem code_ofCode (code : UInt8) : (ofCode code).code = code := by
  unfold ofCode
  split <;> rfl

end ResponseCode

end DiagnosticGateway
