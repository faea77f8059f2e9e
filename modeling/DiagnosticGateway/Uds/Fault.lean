/-
Module: DiagnosticGateway.Uds.Fault
Purpose: What can be wrong with a diagnostic message, its wording and its response code.
Main exports:
  FormatDefect, UdsFault, UdsFault.message, UdsFault.code
-/
import DiagnosticGateway.Uds.ResponseCode
import DiagnosticGateway.Uds.Service

namespace DiagnosticGateway

/-- A message whose bytes do not have the layout of its service. -/
inductive FormatDefect where
  | missingDataIdentifier
  | missingSubFunction
  | missingRoutineIdentifier
  | missingFormatIdentifiers
  | wrongLength (expected got : Nat)
  | missingBlockCounter
  | notRoutineResponse (service : UInt8)
deriving DecidableEq

namespace FormatDefect

/-- The service whose layout is broken. -/
def service : FormatDefect → UInt8
  | .missingDataIdentifier => Service.readDataByIdentifier
  | .missingSubFunction | .missingRoutineIdentifier | .notRoutineResponse _ =>
      Service.routineControl
  | .missingFormatIdentifiers | .wrongLength _ _ => Service.requestDownload
  | .missingBlockCounter => Service.transferData

/-- The wording of a defect. -/
def reason : FormatDefect → String
  | .missingDataIdentifier => "missing data identifier"
  | .missingSubFunction => "missing sub-function"
  | .missingRoutineIdentifier => "missing routine identifier"
  | .missingFormatIdentifiers => "missing format identifiers"
  | .wrongLength expected got => s!"expected {expected} bytes, got {got}"
  | .missingBlockCounter => "missing block sequence counter"
  | .notRoutineResponse service => s!"not a RoutineControl response (0x{Hex.byte service})"

end FormatDefect

/-- What can be wrong with a diagnostic message. -/
inductive UdsFault where
  | emptyMessage
  | invalidFormat (defect : FormatDefect)
  /-- A download request with a field width outside one to four bytes. -/
  | unsupportedFieldWidths (format : UInt8)
  /-- The other end, or this one, refused the service. -/
  | negativeResponse (service : UInt8) (code : ResponseCode)
deriving DecidableEq

namespace UdsFault

/-- The wording of a fault. -/
def message : UdsFault → String
  | .emptyMessage => "Empty UDS message"
  | .invalidFormat defect =>
      s!"Invalid format for service 0x{Hex.byte defect.service}: {defect.reason}"
  | .unsupportedFieldWidths format =>
      s!"Parameter out of range for service 0x{Hex.byte Service.requestDownload}: "
        ++ s!"unsupported addressAndLengthFormatIdentifier 0x{Hex.byte format}"
  | .negativeResponse service code =>
      s!"Negative response: {code.name} (0x{Hex.byte code.code}) for service 0x{Hex.byte service}"

/-- The response code with which a server answers a request that fails this way. -/
def code : UdsFault → ResponseCode
  | .emptyMessage | .invalidFormat _ => .incorrectMessageLengthOrFormat
  | .unsupportedFieldWidths _ => .requestOutOfRange
  | .negativeResponse _ code => code

end UdsFault

end DiagnosticGateway
