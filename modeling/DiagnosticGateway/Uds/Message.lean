/-
Module: DiagnosticGateway.Uds.Message
Purpose: Diagnostic messages split into service, sub-function and data.
Main exports:
  UdsMessage, UdsMessage.decode, UdsMessage.encode, Service.positiveResponse,
  Service.negativeResponseBytes
-/
import DiagnosticGateway.Uds.Fault

namespace DiagnosticGateway

/-- A diagnostic request or response.  A message built by hand may hold a sub-function for any
service. -/
structure UdsMessage where
  service : UInt8
  subFunction : Option UInt8
  data : Octets
deriving DecidableEq

namespace UdsMessage

/-- Split a byte string.  A sub-function is split off only if the service has one and a byte
follows. -/
def decode (bytes : Octets) : Except UdsFault UdsMessage :=
  match bytes with
  | [] => .error .emptyMessage
  | [service] => .ok { service := service, subFunction := none, data := [] }
  | service :: second :: rest =>
      if Service.hasSubFunction service then
        .ok { service := service, subFunction := some second, data := rest }
      else .ok { service := service, subFunction := none, data := second :: rest }

/-- The byte string of a message. -/
def encode (message : UdsMessage) : Octets :=
  message.service :: (message.subFunction.toList ++ message.data)

def isNegativeResponse (message : UdsMessage) : Bool :=
  message.service == Service.negativeResponse

def isResponse (message : UdsMessage) : Bool := Service.isResponseId message.service

def isPositiveResponse (message : UdsMessage) : Bool :=
  !message.isNegativeResponse && message.isResponse

/-- Whether the message is the positive response to a request of the given service. -/
def isPositiveResponseTo (message : UdsMessage) (service : UInt8) : Bool :=
  message.service == Service.responseId service

/-- The refused service and the response code, if the message is a negative response that holds
both. -/
def refusal (message : UdsMessage) : Option (UInt8 × ResponseCode) :=
  if message.isNegativeResponse then
    match message.data with
    | service :: code :: _ => some (service, .ofCode code)
    | _ => none
  else none

/-- A negative response as a fault, any other message as it is. -/
def toResult (message : UdsMessage) : Except UdsFault UdsMessage :=
  match message.refusal with
  | some (service, code) => .error (.negativeResponse service code)
  | none => .ok message

end UdsMessage

namespace Service

/-- The bytes of a positive response. -/
def positiveResponse (service : UInt8) (data : Octets) : Octets := responseId service :: data

/-- The bytes of a negative response. -/
def negativeResponseBytes (service : UInt8) (code : ResponseCode) : Octets :=
  [negativeResponse, service, code.code]

end Service

end DiagnosticGateway
