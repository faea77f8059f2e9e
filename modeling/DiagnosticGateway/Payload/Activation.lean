/-
Module: DiagnosticGateway.Payload.Activation
Purpose: The request that activates routing for a tester, and its answer.
Main exports:
  ActivationRequest, ActivationCode, ActivationResponse
-/
import DiagnosticGateway.Frame.Basic
import DiagnosticGateway.Payload.Fault

/-!
A request is the tester's address, an activation type and four reserved bytes; a manufacturer's word
follows if four more bytes do.  A response names both ends and carries a code.  Bytes beyond the
layout are not looked at.
-/

namespace DiagnosticGateway

/-- A tester asks for routing. -/
structure ActivationRequest where
  source : UInt16
  activationType : UInt8
  reserved : UInt32 := 0
  manufacturer : Option UInt32 := none
deriving DecidableEq

namespace ActivationRequest

/-- Bytes a request has at least. -/
def minimumLength : Nat := 7

/-- The payload of a request. -/
def toOctets (request : ActivationRequest) : Octets :=
  Octets.ofWord16 request.source ++ request.activationType ::
    (Octets.ofWord32 request.reserved ++
      match request.manufacturer with
      | some word => Octets.ofWord32 word
      | none => [])

/-- Read a request from a payload. -/
def parse (payload : Octets) : Except PayloadFault ActivationRequest :=
  match payload with
  | high :: low :: activationType :: first :: second :: third :: fourth :: rest =>
      .ok
        { source := Octets.word16 high low
          activationType := activationType
          reserved := Octets.word32 first second third fourth
          manufacturer := (Octets.takeWord32 rest).map Prod.fst }
  | short => .error (.tooShort .routingActivationRequest minimumLength short.length)

/-- The frame that carries a request. -/
def toFrame (request : ActivationRequest) : Frame :=
  .ofPayload .routingActivationRequest request.toOctets

end ActivationRequest

/-- The gateway's verdict on an activation. -/
inductive ActivationCode where
  | deniedUnknownSourceAddress
  | deniedNoSocket
  | deniedSourceAddressInUse
  | deniedSourceAddressDifferent
  | deniedAlreadyActive
  | deniedAuthenticationMissing
  | deniedConfirmationRejected
  | success
  | confirmationRequired
  | unassigned (code : UInt8)
deriving DecidableEq

namespace ActivationCode

/-- The meaning of a code. -/
def ofCode (code : UInt8) : ActivationCode :=
  match code with
  | 0x00 => .deniedUnknownSourceAddress
  | 0x01 => .deniedNoSocket
  | 0x02 => .deniedSourceAddressInUse
  | 0x03 => .deniedSourceAddressDifferent
  | 0x04 => .deniedAlreadyActive
  | 0x05 => .deniedAuthenticationMissing
  | 0x06 => .deniedConfirmationRejected
  | 0x10 => .success
  | 0x11 => .confirmationRequired
  | other => .unassigned other

/-- The code of a meaning. -/
def code : ActivationCode → UInt8
  | .deniedUnknownSourceAddress => 0x00
  | .deniedNoSocket => 0x01
  | .deniedSourceAddressInUse => 0x02
  | .deniedSourceAddressDifferent => 0x03
  | .deniedAlreadyActive => 0x04
  | .deniedAuthenticationMissing => 0x05
  | .deniedConfirmationRejected => 0x06
  | .success => 0x10
  | .confirmationRequired => 0x11
  | .unassigned code => code

/-- The name of a code. -/
def name : ActivationCode → String
  | .deniedUnknownSourceAddress => "DeniedUnknownSourceAddress"
  | .deniedNoSocket => "DeniedNoSocket"
  | .deniedSourceAddressInUse => "DeniedSourceAddressInUse"
  | .deniedSourceAddressDifferent => "DeniedSourceAddressDifferent"
  | .deniedAlreadyActive => "DeniedAlreadyActive"
  | .deniedAuthenticationMissing => "DeniedAuthenticationMissing"
  | .deniedConfirmationRejected => "DeniedConfirmationRejected"
  | .success => "Success"
  | .confirmationRequired => "ConfirmationRequired"
  | .unassigned code => s!"Unknown({code})"

/-- No code is lost by giving it a meaning. -/
@[simp] theorem code_ofCode (code : UInt8) : (ofCode code).code = code := by
  unfold ofCode
  split <;> rfl

end ActivationCode

/-- The gateway answers an activation. -/
structure ActivationResponse where
  entity : UInt16
  tester : UInt16
  code : ActivationCode
  reserved : UInt32 := 0
deriving DecidableEq

namespace ActivationResponse

/-- Bytes a response has at least. -/
def minimumLength : Nat := 9

/-- The payload of a response. -/
def toOctets (response : ActivationResponse) : Octets :=
  Octets.ofWord16 response.entity ++
    (Octets.ofWord16 response.tester ++
      response.code.code :: Octets.ofWord32 response.reserved)

/-- Read a response from a payload. -/
def parse (payload : Octets) : Except PayloadFault ActivationResponse :=
  match payload with
  | entityHigh :: entityLow :: testerHigh :: testerLow :: code ::
      first :: second :: third :: fourth :: _ =>
      .ok
        { entity := Octets.word16 entityHigh entityLow
          tester := Octets.word16 testerHigh testerLow
          code := .ofCode code
          reserved := Octets.word32 first second third fourth }
  | short => .error (.tooShort .routingActivationResponse minimumLength short.length)

/-- The frame that carries a response. -/
def toFrame (response : ActivationResponse) : Frame :=
  .ofPayload .routingActivationResponse response.toOctets

end ActivationResponse

end DiagnosticGateway
