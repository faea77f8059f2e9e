/-
Module: DiagnosticGateway.Uds.Request
Purpose: Requests of the services that the gateway offers.
Main exports:
  UdsRequest, UdsRequest.parse
-/
import DiagnosticGateway.Uds.Message

namespace DiagnosticGateway

/-- A request read by the layout of its service. -/
inductive UdsRequest where
  | readDataByIdentifier (identifier : UInt16)
  | routineControl (subFunction : UInt8) (routine : UInt16) (options : Octets)
  | requestDownload (dataFormat : UInt8) (address size : UInt32)
  | transferData (counter : UInt8) (data : Octets)
  | requestTransferExit (parameters : Octets)
  /-- A service that the gateway does not offer. -/
  | unsupported (service : UInt8)
deriving DecidableEq

namespace UdsRequest

/-- Widths that a field of a download request may have. -/
def FieldWidth (width : Nat) : Prop := 1 ≤ width ∧ width ≤ 4

instance (width : Nat) : Decidable (FieldWidth width) :=
  inferInstanceAs (Decidable (1 ≤ width ∧ width ≤ 4))

/-- Read a download request: a data format, a byte whose low half is the width of the address and
whose high half is the width of the size, and the two fields. -/
def parseDownload (data : Octets) : Except UdsFault UdsRequest :=
  match data with
  | dataFormat :: widths :: fields =>
      let addressWidth := widths.toNat % 16
      let sizeWidth := widths.toNat / 16
      if FieldWidth addressWidth ∧ FieldWidth sizeWidth then
        if fields.length = addressWidth + sizeWidth then
          .ok
            (.requestDownload dataFormat
              (UInt32.ofNat (Octets.value (fields.take addressWidth)))
              (UInt32.ofNat (Octets.value (fields.drop addressWidth))))
        else .error (.invalidFormat (.wrongLength (2 + addressWidth + sizeWidth) data.length))
      else .error (.unsupportedFieldWidths widths)
  | _ => .error (.invalidFormat .missingFormatIdentifiers)

/-- Read a message as a request of its service. -/
def parse (message : UdsMessage) : Except UdsFault UdsRequest :=
  if message.service = Service.readDataByIdentifier then
    match message.data with
    | high :: low :: _ => .ok (.readDataByIdentifier (Octets.word16 high low))
    | _ => .error (.invalidFormat .missingDataIdentifier)
  else if message.service = Service.routineControl then
    match message.subFunction, message.data with
    | some subFunction, high :: low :: options =>
        .ok (.routineControl subFunction (Octets.word16 high low) options)
    | some _, _ => .error (.invalidFormat .missingRoutineIdentifier)
    | none, _ => .error (.invalidFormat .missingSubFunction)
  else if message.service = Service.requestDownload then parseDownload message.data
  else if message.service = Service.transferData then
    match message.data with
    | counter :: data => .ok (.transferData counter data)
    | [] => .error (.invalidFormat .missingBlockCounter)
  else if message.service = Service.requestTransferExit then
    .ok (.requestTransferExit message.data)
  else .ok (.unsupported message.service)

/-- The service of a request. -/
def service : UdsRequest → UInt8
  | .readDataByIdentifier _ => Service.readDataByIdentifier
  | .routineControl _ _ _ => Service.routineControl
  | .requestDownload _ _ _ => Service.requestDownload
  | .transferData _ _ => Service.transferData
  | .requestTransferExit _ => Service.requestTransferExit
  | .unsupported service => service

end UdsRequest

end DiagnosticGateway
