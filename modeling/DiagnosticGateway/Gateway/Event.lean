/-
Module: DiagnosticGateway.Gateway.Event
Purpose: What a gateway tells its host and its peer.
Main exports:
  GatewayFault, VerifiedPackage, GatewayEvent, GatewayOutput
-/
import DiagnosticGateway.Config.Basic
import DiagnosticGateway.Package.Image
import DiagnosticGateway.Telemetry.Report
import DiagnosticGateway.Uds.Message

namespace DiagnosticGateway

/-- Why the gateway refuses something. -/
inductive GatewayFault where
  | routingInactive
  | uds (fault : UdsFault)
  | download (fault : DownloadFault)
  | package (fault : PackageFault)
  | config (fault : ConfigFault)
deriving DecidableEq

namespace GatewayFault

/-- The wording of a refusal. -/
def message : GatewayFault → Option String
  | .routingInactive => some "Routing is not active"
  | .uds fault => some fault.message
  | .download fault => some fault.message
  | .package fault => some fault.message
  | .config fault => fault.message

/-- The response code that reports a refusal to the tester. -/
def code : GatewayFault → ResponseCode
  | .routingInactive => .requestSequenceError
  | .uds fault => fault.code
  | .download fault => fault.code
  | .package fault => fault.code
  | .config _ => .generalReject

/-- A service refused with a fixed response code. -/
def refused (service : UInt8) (code : ResponseCode) : GatewayFault :=
  .uds (.negativeResponse service code)

end GatewayFault

/-- A package that was downloaded and verified, and where it goes. -/
structure VerifiedPackage where
  header : PackageHeader
  disposition : Disposition
  slot : StagingSlot
deriving DecidableEq

/-- Something that the host should know about. -/
inductive GatewayEvent where
  | routingActivated (tester : UInt16) (activationType : UInt8)
  /-- The peer has stopped answering alive checks. -/
  | routingExpired (tester : Option UInt16)
  | routingDeactivated
  | aliveCheckAnswered (source : Option UInt16)
  | vciReported (report : Report VciRecord)
  | healthReported (report : Report HealthRecord)
  | readinessReported (report : Report ReadinessRecord)
  /-- The peer answered a request of the host. -/
  | responseReceived (source : UInt16) (message : UdsMessage)
  | routineStarted (routine : UInt16)
  | transferStarted (address size : UInt32)
  /-- There is no package if packages are not verified. -/
  | transferCompleted (image : DownloadedImage) (package : Option VerifiedPackage)
  | transferFailed (fault : GatewayFault)

namespace GatewayEvent

/-- Whether the event reports an activation. -/
def isActivation : GatewayEvent → Bool
  | .routingActivated _ _ => true
  | _ => false

/-- Whether the event reports an expiry. -/
def isExpiry : GatewayEvent → Bool
  | .routingExpired _ => true
  | _ => false

end GatewayEvent

/-- Frames for the peer and events for the host, each in order. -/
structure GatewayOutput where
  frames : List Frame := []
  events : List GatewayEvent := []

namespace GatewayOutput

/-- No frame and no event. -/
def none : GatewayOutput := {}

/-- One frame and no event. -/
def ofFrame (frame : Frame) : GatewayOutput := { frames := [frame] }

/-- One event and no frame. -/
def ofEvent (event : GatewayEvent) : GatewayOutput := { events := [event] }

def isEmpty (output : GatewayOutput) : Bool := output.frames.isEmpty && output.events.isEmpty

end GatewayOutput

end DiagnosticGateway
