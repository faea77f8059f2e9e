/-
Module: DiagnosticGateway.Package.Fault
Purpose: Why a software package is refused.
Main exports:
  PackageFault, PackageFault.message, PackageFault.code
-/
import DiagnosticGateway.Package.Ecu
import DiagnosticGateway.Uds.ResponseCode

namespace DiagnosticGateway

namespace Package

/-- Bytes in a package header; the payload starts behind it. -/
def headerLength : Nat := 64

/-- The four characters that every package starts with, `SWPG`. -/
def magicWord : UInt32 := 0x53575047

/-- The largest payload that a package may declare. -/
def maximumPayload : UInt32 := 8388608

end Package

/-- Why a package is refused. -/
inductive PackageFault where
  | tooSmall (got : Nat)
  | wrongMagic (magic : UInt32)
  | payloadSizeOutOfRange (size : UInt32)
  | invalidTarget
  | sizeMismatch (payloadSize total : UInt32)
  | beyondAddressing
  | corrupted (expected actual : UInt32)
  | unknownTarget (target : UInt16)
deriving DecidableEq

namespace PackageFault

/-- The wording of a refusal. -/
def message : PackageFault → String
  | .tooSmall got => s!"Package too small: {got} bytes (minimum {Package.headerLength})"
  | .wrongMagic magic => s!"Malformed package: invalid magic 0x{Hex.word32 magic}"
  | .payloadSizeOutOfRange size =>
      s!"Malformed package: payload size {size} outside 1..={Package.maximumPayload}"
  | .invalidTarget =>
      s!"Malformed package: target ECU 0x{Hex.word16 Ecu.invalid} is invalid"
  | .sizeMismatch payloadSize total =>
      s!"Malformed package: payload_size {payloadSize} + {Package.headerLength} header bytes "
        ++ s!"!= transfer size {total}"
  | .beyondAddressing => "Malformed package: package exceeds 4 GiB"
  | .corrupted expected actual =>
      s!"Integrity error: header CRC 0x{Hex.word32 expected}, computed 0x{Hex.word32 actual}"
  | .unknownTarget target => s!"Unknown target ECU 0x{Hex.word16 target}"

/-- The response code that reports a refusal. -/
def code : PackageFault → ResponseCode
  | .unknownTarget _ => .requestOutOfRange
  | _ => .generalProgrammingFailure

end PackageFault

end DiagnosticGateway
