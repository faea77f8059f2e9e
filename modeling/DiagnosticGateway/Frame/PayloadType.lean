/-
Module: DiagnosticGateway.Frame.PayloadType
Purpose: The sixteen-bit code that says what a frame carries.
Main exports:
  PayloadType, PayloadType.ofCode, PayloadType.code, PayloadType.name
-/
import DiagnosticGateway.Text.Hex

namespace DiagnosticGateway

/-- What a frame carries.  Codes without a meaning here are kept as they are. -/
inductive PayloadType where
  | genericNack
  | vehicleIdentificationRequest
  | vehicleIdentificationRequestEid
  | vehicleIdentificationRequestVin
  | vehicleAnnouncement
  | routingActivationRequest
  | routingActivationResponse
  | aliveCheckRequest
  | aliveCheckResponse
  | diagnosticMessage
  | diagnosticMessageAck
  | diagnosticMessageNack
  /-- Vehicle configuration records, 48 bytes each. -/
  | vciReport
  /-- Health status records, 24 bytes each. -/
  | healthReport
  /-- Update readiness records, 27 bytes each. -/
  | readinessReport
  | unassigned (code : UInt16)
deriving DecidableEq

namespace PayloadType

/-- The meaning of a code. -/
def ofCode (code : UInt16) : PayloadType :=
  match code with
  | 0x0000 => .genericNack
  | 0x0001 => .vehicleIdentificationRequest
  | 0x0002 => .vehicleIdentificationRequestEid
  | 0x0003 => .vehicleIdentificationRequestVin
  | 0x0004 => .vehicleAnnouncement
  | 0x0005 => .routingActivationRequest
  | 0x0006 => .routingActivationResponse
  | 0x0007 => .aliveCheckRequest
  | 0x0008 => .aliveCheckResponse
  | 0x8001 => .diagnosticMessage
  | 0x8002 => .diagnosticMessageAck
  | 0x8003 => .diagnosticMessageNack
  | 0x9000 => .vciReport
  | 0x9001 => .healthReport
  | 0x9002 => .readinessReport
  | other => .unassigned other

/-- The code of a meaning. -/
def code : PayloadType → UInt16
  | .genericNack => 0x0000
  | .vehicleIdentificationRequest => 0x0001
  | .vehicleIdentificationRequestEid => 0x0002
  | .vehicleIdentificationRequestVin => 0x0003
  | .vehicleAnnouncement => 0x0004
  | .routingActivationRequest => 0x0005
  | .routingActivationResponse => 0x0006
  | .aliveCheckRequest => 0x0007
  | .aliveCheckResponse => 0x0008
  | .diagnosticMessage => 0x8001
  | .diagnosticMessageAck => 0x8002
  | .diagnosticMessageNack => 0x8003
  | .vciReport => 0x9000
  | .healthReport => 0x9001
  | .readinessReport => 0x9002
  | .unassigned code => code

/-- The name used in messages. -/
def name : PayloadType → String
  | .genericNack => "GenericNack"
  | .vehicleIdentificationRequest => "VehicleIdentificationRequest"
  | .vehicleIdentificationRequestEid => "VehicleIdentificationRequestEid"
  | .vehicleIdentificationRequestVin => "VehicleIdentificationRequestVin"
  | .vehicleAnnouncement => "VehicleAnnouncement"
  | .routingActivationRequest => "RoutingActivationRequest"
  | .routingActivationResponse => "RoutingActivationResponse"
  | .aliveCheckRequest => "AliveCheckRequest"
  | .aliveCheckResponse => "AliveCheckResponse"
  | .diagnosticMessage => "DiagnosticMessage"
  | .diagnosticMessageAck => "DiagnosticMessageAck"
  | .diagnosticMessageNack => "DiagnosticMessageNack"
  | .vciReport => "VciReport"
  | .healthReport => "HealthReport"
  | .readinessReport => "ReadinessReport"
  | .unassigned code => s!"Unknown(0x{Hex.word16 code})"

/-- No code is lost by giving it a meaning. -/
@[simp] theorem code_ofCode (code : UInt16) : (ofCode code).code = code := by
  unfold ofCode
  split <;> rfl

/-- A payload type is canonical when it is the meaning of its own code, so that an assigned code
never hides behind `unassigned`. -/
def IsCanonical (payloadType : PayloadType) : Prop :=
  ofCode payloadType.code = payloadType

instance (payloadType : PayloadType) : Decidable payloadType.IsCanonical :=
  inferInstanceAs (Decidable (ofCode payloadType.code = payloadType))

theorem isCanonical_ofCode (code : UInt16) : (ofCode code).IsCanonical := by
  rw [IsCanonical, code_ofCode]

end PayloadType

end DiagnosticGateway
