/-
Module: DiagnosticGateway.Uds.Service
Purpose: Service identifiers and the shape that they give a message.
Main exports:
  Service, Service.isResponseId, Service.requestId, Service.hasSubFunction
-/
import DiagnosticGateway.Octets

/-!
The first byte of a diagnostic message names the service.  A positive response carries the request's
identifier with 0x40 added, a negative response the identifier 0x7F; so bit six marks responses.
-/

namespace DiagnosticGateway.Service

abbrev diagnosticSessionControl : UInt8 := 0x10
abbrev ecuReset : UInt8 := 0x11
abbrev readDtcInformation : UInt8 := 0x19
abbrev readDataByIdentifier : UInt8 := 0x22
abbrev securityAccess : UInt8 := 0x27
abbrev communicationControl : UInt8 := 0x28
abbrev routineControl : UInt8 := 0x31
abbrev requestDownload : UInt8 := 0x34
abbrev transferData : UInt8 := 0x36
abbrev requestTransferExit : UInt8 := 0x37
abbrev testerPresent : UInt8 := 0x3E
abbrev negativeResponse : UInt8 := 0x7F
abbrev controlDtcSetting : UInt8 := 0x85

/-- What a positive response adds to the request's identifier. -/
abbrev responseOffset : UInt8 := 0x40

/-- Identifiers with bit six set belong to responses. -/
def isResponseId (service : UInt8) : Bool := service &&& responseOffset != 0

/-- The identifier of the positive response to a request; the sum wraps. -/
def responseId (service : UInt8) : UInt8 := service + responseOffset

/-- The request that an identifier belongs to. -/
def requestId (service : UInt8) : UInt8 :=
  if isResponseId service then service - responseOffset else service

/-- Services whose second byte is a sub-function. -/
def withSubFunction : List UInt8 :=
  [diagnosticSessionControl, ecuReset, readDtcInformation, securityAccess, communicationControl,
    routineControl, testerPresent, controlDtcSetting]

/-- Whether the second byte of a message of this service is a sub-function, in the request and in
its positive response alike. -/
def hasSubFunction (service : UInt8) : Bool := withSubFunction.contains (requestId service)

end DiagnosticGateway.Service
