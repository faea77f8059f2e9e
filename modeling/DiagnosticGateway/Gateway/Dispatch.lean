/-
Module: DiagnosticGateway.Gateway.Dispatch
Purpose: One frame in, frames and events out.
Main exports:
  Gateway.serve, Gateway.handleDiagnostic, Gateway.handleFrame, Gateway.pollAliveCheck,
  Gateway.deactivate, Gateway.diagnosticRequest
-/
import DiagnosticGateway.Gateway.Programming
import DiagnosticGateway.Gateway.Routine
import DiagnosticGateway.Payload.Diagnostic
import DiagnosticGateway.Payload.GenericNack
import DiagnosticGateway.Uds.Request

/-!
Every frame that arrives while routing is active counts as a sign of life, whatever it holds.  A
payload that does not fit its type is answered by a generic refusal, and so is a payload type that
the gateway does not take.
-/

namespace DiagnosticGateway.Gateway

/-- Serve a request by its service. -/
def serveRequest (gateway : Gateway) : UdsRequest → Served
  | .readDataByIdentifier identifier => gateway.readData identifier
  | .routineControl subFunction routine _ => gateway.controlRoutine subFunction routine
  | .requestDownload dataFormat address size => gateway.requestDownload dataFormat address size
  | .transferData counter block => gateway.transferData counter block
  | .requestTransferExit _ => gateway.requestTransferExit
  | .unsupported service => .refuse gateway (.refused service .serviceNotSupported)

/-- Serve a message that is a request. -/
def serve (gateway : Gateway) (message : UdsMessage) : Served :=
  match UdsRequest.parse message with
  | .ok request => gateway.serveRequest request
  | .error fault => .refuse gateway (.uds fault)

/-- The frame that carries service data from the gateway to a peer. -/
def diagnosticFrame (gateway : Gateway) (target : UInt16) (userData : Octets) : Frame :=
  DiagnosticMessage.toFrame
    { source := gateway.localAddress, target := target, userData := userData }

/-- The frame that refuses a diagnostic message. -/
def refusalFrame (gateway : Gateway) (target : UInt16) (reason : DiagnosticNackCode) : Frame :=
  (Acknowledgement.negative gateway.localAddress target reason).toNegativeFrame

/-- The frame that acknowledges a diagnostic message, if the settings ask for one. -/
def acknowledgementFrames (gateway : Gateway) (target : UInt16) : List Frame :=
  if gateway.config.framing.acknowledge then
    [(Acknowledgement.positive gateway.localAddress target).toPositiveFrame]
  else []

/-- Take service data that is meant for the gateway: a response is passed to the host, a request is
served. -/
def handleUds (gateway : Gateway) (source : UInt16) (message : UdsMessage) :
    GatewayOutput × Gateway :=
  let acknowledgement := gateway.acknowledgementFrames source
  if message.isResponse then
    ({ frames := acknowledgement, events := [.responseReceived source message] }, gateway)
  else
    let served := gateway.serve message
    let response := gateway.diagnosticFrame source (served.response message.service)
    ({ frames := acknowledgement ++ response :: served.followups, events := served.events },
      served.gateway)

/-- Take a diagnostic message.  Inactive routing is reported before a wrong source, and that before a
wrong target. -/
def handleDiagnostic (gateway : Gateway) (message : DiagnosticMessage) :
    GatewayOutput × Gateway :=
  if !gateway.routing.isActive then
    let service := message.userData.headD 0
    let response :=
      Service.negativeResponseBytes service GatewayFault.routingInactive.code
    (.ofFrame (gateway.diagnosticFrame message.source response), gateway)
  else if !gateway.routing.accepts message.source then
    (.ofFrame (gateway.refusalFrame message.source .invalidSourceAddress), gateway)
  else if message.target ≠ gateway.localAddress then
    (.ofFrame (gateway.refusalFrame message.source .unknownTargetAddress), gateway)
  else
    match UdsMessage.decode message.userData with
    | .ok uds => gateway.handleUds message.source uds
    | .error _ => ({ frames := gateway.acknowledgementFrames message.source }, gateway)

/-- Take a routing activation.  Another tester than the active one ends the download of that one. -/
def handleActivation (gateway : Gateway) (request : ActivationRequest) (now : Time) :
    GatewayOutput × Gateway :=
  let takeover :=
    gateway.routing.isActive && gateway.routing.peer.any (· != request.source)
  let (aborted, gateway) := if takeover then gateway.abortDownload else ([], gateway)
  let (response, routing) := gateway.routing.activate request now
  ({ frames := [response.toFrame]
     events := aborted ++ [.routingActivated request.source request.activationType] },
    { gateway with routing := routing })

/-- Take a report, if routing is active. -/
def handleReport {Record : Type} [TelemetryRecord Record] (gateway : Gateway) (payload : Octets)
    (keep : TelemetryStore → List Record → TelemetryStore)
    (event : Report Record → GatewayEvent) : Except TelemetryFault (GatewayOutput × Gateway) :=
  if gateway.routing.isActive then
    (Report.parse payload).map fun report =>
      (.ofEvent (event report),
        { gateway with telemetry := keep gateway.telemetry report.records })
  else .ok (.none, gateway)

/-- The answer to a payload that does not fit its type. -/
def refusePayload (gateway : Gateway) : GatewayOutput × Gateway :=
  (.ofFrame GenericNackCode.invalidPayloadLength.toFrame, gateway)

/-- Go on with what was read, or refuse the payload. -/
def orRefuse {Fault Value : Type} (gateway : Gateway) (parsed : Except Fault Value)
    (handle : Value → GatewayOutput × Gateway) : GatewayOutput × Gateway :=
  match parsed with
  | .ok value => handle value
  | .error _ => gateway.refusePayload

/-- Take a payload of the given type. -/
def handlePayload (gateway : Gateway) (payloadType : PayloadType) (payload : Octets)
    (now : Time) : GatewayOutput × Gateway :=
  match payloadType with
  | .routingActivationRequest =>
      gateway.orRefuse (ActivationRequest.parse payload) fun request =>
        gateway.handleActivation request now
  | .aliveCheckRequest =>
      gateway.orRefuse (AliveCheckRequest.parse payload) fun _ =>
        (.ofFrame (AliveCheckResponse.toFrame { source := some gateway.localAddress }), gateway)
  | .aliveCheckResponse =>
      (.ofEvent (.aliveCheckAnswered (AliveCheckResponse.parse payload).source),
        { gateway with routing := gateway.routing.touch now })
  | .diagnosticMessage =>
      gateway.orRefuse (DiagnosticMessage.parse payload) gateway.handleDiagnostic
  | .diagnosticMessageAck | .diagnosticMessageNack =>
      gateway.orRefuse (Acknowledgement.parse payloadType payload) fun _ => (.none, gateway)
  | .vciReport =>
      gateway.orRefuse
        (gateway.handleReport payload
          (fun store records => { store with vci := TelemetryStore.merge store.vci records })
          .vciReported)
        id
  | .healthReport =>
      gateway.orRefuse
        (gateway.handleReport payload
          (fun store records => { store with health := TelemetryStore.merge store.health records })
          .healthReported)
        id
  | .readinessReport =>
      gateway.orRefuse
        (gateway.handleReport payload
          (fun store records =>
            { store with readiness := TelemetryStore.merge store.readiness records })
          .readinessReported)
        id
  | .genericNack => (.none, gateway)
  | .vehicleIdentificationRequest | .vehicleIdentificationRequestEid
  | .vehicleIdentificationRequestVin | .vehicleAnnouncement | .routingActivationResponse
  | .unassigned _ => (.ofFrame GenericNackCode.unknownPayloadType.toFrame, gateway)

/-- Note the sign of life that any frame is while routing is active. -/
def noteActivity (gateway : Gateway) (now : Time) : Gateway :=
  if gateway.routing.isActive then { gateway with routing := gateway.routing.touch now }
  else gateway

/-- Take a frame. -/
def handleFrame (gateway : Gateway) (frame : Frame) (now : Time) : GatewayOutput × Gateway :=
  (gateway.noteActivity now).handlePayload frame.payloadType frame.payload now

/-- Follow the alive-check schedule. -/
def pollAliveCheck (gateway : Gateway) (now : Time) : GatewayOutput × Gateway :=
  let (check, routing) := gateway.routing.poll now
  let gateway := { gateway with routing := routing }
  match check with
  | .notDue => (.none, gateway)
  | .send request => (.ofFrame request.toFrame, gateway)
  | .expired =>
      let (aborted, gateway) := gateway.abortDownload
      ({ events := aborted ++ [.routingExpired gateway.routing.peer] }, gateway)

/-- End the session, if it is active. -/
def deactivate (gateway : Gateway) : GatewayOutput × Gateway :=
  let wasActive := gateway.routing.isActive
  let gateway := { gateway with routing := gateway.routing.deactivate }
  if wasActive then
    let (aborted, gateway) := gateway.abortDownload
    ({ events := aborted ++ [.routingDeactivated] }, gateway)
  else (.none, gateway)

/-- The frame that carries a request of the host to a peer. -/
def diagnosticRequest (gateway : Gateway) (target : UInt16) (userData : Octets) :
    Except GatewayFault Frame :=
  if gateway.routing.isActive then
    match UdsMessage.decode userData with
    | .ok _ => .ok (gateway.diagnosticFrame target userData)
    | .error fault => .error (.uds fault)
  else .error .routingInactive

end DiagnosticGateway.Gateway
