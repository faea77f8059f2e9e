/-
Module: DiagnosticGateway.Proofs.Gateway.FrameEffect
Purpose: Everything that a frame can do to a gateway.
Main exports:
  Gateway.answer, FromOwner, FrameEffect, Gateway.frameEffect_handleFrame
-/
import DiagnosticGateway.Proofs.Gateway.ServiceEffect
import DiagnosticGateway.Proofs.Gateway.SessionLoss

/-!
`FrameEffect` lists what a frame can do to a gateway that has noted the sign of life: what is sent,
what is reported, and what changes.  It has one case for every way through the payload types and the
checks on a diagnostic message.  Statements about all frames are read from the list, together with
`Served.Effect` where a request is served.
-/

namespace DiagnosticGateway

/-! ## Answers -/

namespace Gateway

/-- The output that answers a request of a tester. -/
def answer (gateway : Gateway) (tester : UInt16) (service : UInt8) (served : Served) :
    GatewayOutput :=
  { frames :=
      gateway.acknowledgementFrames tester ++
        gateway.diagnosticFrame tester (served.response service) :: served.followups
    events := served.events }

/-- An acknowledgement is no diagnostic message. -/
theorem replies_acknowledgementFrames (gateway : Gateway) (tester : UInt16)
    (events : List GatewayEvent) :
    GatewayOutput.replies
      { frames := gateway.acknowledgementFrames tester, events := events } = [] := by
  unfold GatewayOutput.replies acknowledgementFrames
  dsimp only
  split <;> rfl

@[simp] theorem serviceData?_response (gateway : Gateway) (tester : UInt16) (service : UInt8)
    (served : Served) :
    (gateway.diagnosticFrame tester (served.response service)).serviceData? =
      some (served.response service) := by
  unfold Served.response
  split
  · simp [Service.positiveResponse]
  · simp [Service.negativeResponseBytes]

/-- A negative response that is sent alone is the only reply. -/
theorem replies_ofFrame_negative (gateway : Gateway) (target : UInt16) (service : UInt8)
    (code : ResponseCode) :
    GatewayOutput.replies
        (.ofFrame (gateway.diagnosticFrame target (Service.negativeResponseBytes service code))) =
      [Service.negativeResponseBytes service code] := by
  simp [GatewayOutput.replies, GatewayOutput.ofFrame, Service.negativeResponseBytes]

/-- A report is no diagnostic message. -/
@[simp] theorem serviceData?_reportFrame (gateway : Gateway) (subject : RoutineSubject) :
    (gateway.reportFrame subject).serviceData? = none := by
  apply Frame.serviceData?_eq_none
  cases subject <;> simp [reportFrame, Frame.ofPayload]

/-- The only reply to a request is the response to it. -/
theorem replies_answer (gateway : Gateway) (tester : UInt16) (service : UInt8) {served : Served}
    (reports : ∀ frame ∈ served.followups, frame.serviceData? = none) :
    (gateway.answer tester service served).replies = [served.response service] := by
  have acknowledged := replies_acknowledgementFrames gateway tester []
  have silent : served.followups.filterMap Frame.serviceData? = [] :=
    List.filterMap_eq_nil_iff.mpr reports
  unfold GatewayOutput.replies at acknowledged ⊢
  dsimp only [answer] at acknowledged ⊢
  rw [List.filterMap_append, acknowledged, List.nil_append,
    List.filterMap_cons_some (serviceData?_response ..), silent]

end Gateway

/-! ## Frames -/

/-- A diagnostic message with service data for the gateway comes from the active tester. -/
structure FromOwner (gateway : Gateway) (frame : Frame) (message : DiagnosticMessage)
    (uds : UdsMessage) : Prop where
  carried : frame.diagnostic? = some message
  accepted : gateway.routing.accepts message.source = true
  addressed : message.target = gateway.localAddress
  decoded : UdsMessage.decode message.userData = .ok uds

/-- Everything that a frame can do to a gateway. -/
inductive FrameEffect (gateway : Gateway) (frame : Frame) (now : Time) :
    GatewayOutput → Gateway → Prop where
  /-- The frame is refused as a whole. -/
  | refused (reason : GenericNackCode) :
      FrameEffect gateway frame now (.ofFrame reason.toFrame) gateway
  /-- The frame asks for nothing, or is a report that comes before an activation. -/
  | ignored : FrameEffect gateway frame now .none gateway
  /-- A tester activates routing, and there is no download that another tester would lose. -/
  | activated {request : ActivationRequest}
      (activation : frame.payloadType = .routingActivationRequest)
      (parsed : ActivationRequest.parse frame.payload = .ok request)
      (spared : (∀ owner, gateway.routing.accepts owner = true → owner = request.source) ∨
        gateway.download.isActive = false) :
      FrameEffect gateway frame now
        { frames := [(gateway.routing.activate request now).1.toFrame]
          events := [.routingActivated request.source request.activationType] }
        { gateway with routing := (gateway.routing.activate request now).2 }
  /-- A tester activates routing while another one fills a download. -/
  | takenOver {request : ActivationRequest} {owner : UInt16}
      (activation : frame.payloadType = .routingActivationRequest)
      (parsed : ActivationRequest.parse frame.payload = .ok request)
      (owned : gateway.routing.accepts owner = true) (other : owner ≠ request.source)
      (active : gateway.download.isActive = true) :
      FrameEffect gateway frame now
        { frames := [(gateway.routing.activate request now).1.toFrame]
          events :=
            [.transferFailed .routingInactive,
              .routingActivated request.source request.activationType] }
        { gateway with
          routing := (gateway.routing.activate request now).2
          download := gateway.download.abort
          inspected := none }
  /-- The peer asks for a sign of life. -/
  | aliveAsked :
      FrameEffect gateway frame now
        (.ofFrame (AliveCheckResponse.toFrame { source := some gateway.localAddress })) gateway
  /-- The peer gives a sign of life. -/
  | aliveAnswered (source : Option UInt16) :
      FrameEffect gateway frame now (.ofEvent (.aliveCheckAnswered source))
        { gateway with routing := gateway.routing.touch now }
  /-- Configuration records come in. -/
  | vciReported {report : Report VciRecord} (kind : frame.payloadType = .vciReport)
      (active : gateway.routing.isActive = true)
      (parsed : Report.parse frame.payload = .ok report) :
      FrameEffect gateway frame now (.ofEvent (.vciReported report))
        { gateway with
          telemetry :=
            { gateway.telemetry with
              vci := TelemetryStore.merge gateway.telemetry.vci report.records } }
  /-- Health records come in. -/
  | healthReported {report : Report HealthRecord} (kind : frame.payloadType = .healthReport)
      (active : gateway.routing.isActive = true)
      (parsed : Report.parse frame.payload = .ok report) :
      FrameEffect gateway frame now (.ofEvent (.healthReported report))
        { gateway with
          telemetry :=
            { gateway.telemetry with
              health := TelemetryStore.merge gateway.telemetry.health report.records } }
  /-- Readiness records come in. -/
  | readinessReported {report : Report ReadinessRecord}
      (kind : frame.payloadType = .readinessReport)
      (active : gateway.routing.isActive = true)
      (parsed : Report.parse frame.payload = .ok report) :
      FrameEffect gateway frame now (.ofEvent (.readinessReported report))
        { gateway with
          telemetry :=
            { gateway.telemetry with
              readiness := TelemetryStore.merge gateway.telemetry.readiness report.records } }
  /-- A diagnostic message comes before an activation. -/
  | unrouted {message : DiagnosticMessage} (carried : frame.diagnostic? = some message)
      (inactive : gateway.routing.isActive = false) :
      FrameEffect gateway frame now
        (.ofFrame (gateway.diagnosticFrame message.source
          (Service.negativeResponseBytes (message.userData.headD 0)
            GatewayFault.routingInactive.code)))
        gateway
  /-- A diagnostic message comes from another address than that of the active tester. -/
  | wrongSource {message : DiagnosticMessage} (carried : frame.diagnostic? = some message)
      (active : gateway.routing.isActive = true)
      (rejected : gateway.routing.accepts message.source = false) :
      FrameEffect gateway frame now
        (.ofFrame (gateway.refusalFrame message.source .invalidSourceAddress)) gateway
  /-- A diagnostic message is meant for another address than that of the gateway. -/
  | wrongTarget {message : DiagnosticMessage} (carried : frame.diagnostic? = some message)
      (accepted : gateway.routing.accepts message.source = true)
      (elsewhere : message.target ≠ gateway.localAddress) :
      FrameEffect gateway frame now
        (.ofFrame (gateway.refusalFrame message.source .unknownTargetAddress)) gateway
  /-- The active tester answers a request of the host. -/
  | responded {message : DiagnosticMessage} {uds : UdsMessage}
      (owner : FromOwner gateway frame message uds) (response : uds.isResponse = true) :
      FrameEffect gateway frame now
        { frames := gateway.acknowledgementFrames message.source
          events := [.responseReceived message.source uds] }
        gateway
  /-- A request of the active tester is served. -/
  | served {message : DiagnosticMessage} {uds : UdsMessage}
      (owner : FromOwner gateway frame message uds) (request : uds.isResponse = false) :
      FrameEffect gateway frame now
        (gateway.answer message.source uds.service (gateway.serve uds))
        (gateway.serve uds).gateway

namespace Gateway

variable {gateway : Gateway} {frame : Frame} {now : Time}

/-! ## Activations -/

theorem frameEffect_handleActivation {request : ActivationRequest}
    (activation : frame.payloadType = .routingActivationRequest)
    (parsed : ActivationRequest.parse frame.payload = .ok request) :
    FrameEffect gateway frame now (gateway.handleActivation request now).1
      (gateway.handleActivation request now).2 := by
  by_cases taken : ∃ owner, gateway.routing.accepts owner = true ∧ owner ≠ request.source
  · obtain ⟨owner, owned, other⟩ := taken
    rw [handleActivation_of_takeover owned other]
    cases active : gateway.download.isActive with
    | true =>
        rw [abortDownload_of_active active]
        exact .takenOver activation parsed owned other active
    | false =>
        rw [abortDownload_of_inactive active]
        exact .activated activation parsed (.inr active)
  · have alone : ∀ owner, gateway.routing.accepts owner = true → owner = request.source := by
      intro owner owned
      by_cases same : owner = request.source
      · exact same
      · exact absurd ⟨owner, owned, same⟩ taken
    rw [handleActivation_of_alone alone]
    exact .activated activation parsed (.inl alone)

/-! ## Reports -/

/-- A report is refused, comes too early, or is kept and passed to the host. -/
theorem frameEffect_handleReport {Record : Type} [TelemetryRecord Record]
    {keep : TelemetryStore → List Record → TelemetryStore} {event : Report Record → GatewayEvent}
    (reported : ∀ report, gateway.routing.isActive = true →
      Report.parse frame.payload = .ok report →
      FrameEffect gateway frame now (.ofEvent (event report))
        { gateway with telemetry := keep gateway.telemetry report.records }) :
    FrameEffect gateway frame now
      (gateway.orRefuse (gateway.handleReport frame.payload keep event) id).1
      (gateway.orRefuse (gateway.handleReport frame.payload keep event) id).2 := by
  unfold handleReport
  split
  · rename_i active
    cases parsed : (Report.parse frame.payload : Except TelemetryFault (Report Record)) with
    | ok report => exact reported report active parsed
    | error fault => exact .refused _
  · exact .ignored

/-! ## Diagnostic messages -/

/-- A parsed message has service data, and it can be split. -/
theorem exists_decode {message : DiagnosticMessage} (carried : frame.diagnostic? = some message) :
    ∃ uds, UdsMessage.decode message.userData = .ok uds := by
  obtain ⟨-, parsed⟩ := Frame.diagnostic?_eq_some_iff.mp carried
  obtain ⟨source, target, service, parameters, rfl⟩ := DiagnosticMessage.exists_of_parse parsed
  exact UdsMessage.exists_decode service parameters

theorem frameEffect_handleDiagnostic {message : DiagnosticMessage}
    (carried : frame.diagnostic? = some message) :
    FrameEffect gateway frame now (gateway.handleDiagnostic message).1
      (gateway.handleDiagnostic message).2 := by
  unfold handleDiagnostic
  split
  · rename_i inactive
    exact .unrouted carried (by simpa using inactive)
  rename_i active
  split
  · rename_i rejected
    exact .wrongSource carried (by simpa using active) (by simpa using rejected)
  rename_i accepted
  split
  · rename_i elsewhere
    exact .wrongTarget carried (by simpa using accepted) elsewhere
  rename_i addressed
  obtain ⟨uds, decoded⟩ := exists_decode carried
  have owner : FromOwner gateway frame message uds :=
    ⟨carried, by simpa using accepted, by simpa using addressed, decoded⟩
  simp only [decoded, handleUds]
  split
  · rename_i response
    exact .responded owner response
  · rename_i request
    exact .served owner (by simpa using request)

/-! ## All payload types -/

theorem frameEffect_handlePayload (gateway : Gateway) (frame : Frame) (now : Time) :
    FrameEffect gateway frame now
      (gateway.handlePayload frame.payloadType frame.payload now).1
      (gateway.handlePayload frame.payloadType frame.payload now).2 := by
  cases payloadType : frame.payloadType with
  | routingActivationRequest =>
      simp only [handlePayload, orRefuse]
      split
      · rename_i request parsed
        exact frameEffect_handleActivation payloadType parsed
      · exact .refused _
  | aliveCheckRequest =>
      simp only [handlePayload, orRefuse]
      split
      · exact .aliveAsked
      · exact .refused _
  | aliveCheckResponse => exact .aliveAnswered _
  | diagnosticMessage =>
      simp only [handlePayload, orRefuse]
      split
      · rename_i message parsed
        exact frameEffect_handleDiagnostic (Frame.diagnostic?_eq_some_iff.mpr ⟨payloadType, parsed⟩)
      · exact .refused _
  | diagnosticMessageAck =>
      simp only [handlePayload, orRefuse]
      split
      · exact .ignored
      · exact .refused _
  | diagnosticMessageNack =>
      simp only [handlePayload, orRefuse]
      split
      · exact .ignored
      · exact .refused _
  | vciReport =>
      apply frameEffect_handleReport
      intro report active parsed
      exact .vciReported payloadType active parsed
  | healthReport =>
      apply frameEffect_handleReport
      intro report active parsed
      exact .healthReported payloadType active parsed
  | readinessReport =>
      apply frameEffect_handleReport
      intro report active parsed
      exact .readinessReported payloadType active parsed
  | genericNack => exact .ignored
  | vehicleIdentificationRequest => exact .refused _
  | vehicleIdentificationRequestEid => exact .refused _
  | vehicleIdentificationRequestVin => exact .refused _
  | vehicleAnnouncement => exact .refused _
  | routingActivationResponse => exact .refused _
  | unassigned code => exact .refused _

/-- Everything that a frame can do, once the sign of life has been noted. -/
theorem frameEffect_handleFrame (gateway : Gateway) (frame : Frame) (now : Time) :
    FrameEffect (gateway.noteActivity now) frame now (gateway.handleFrame frame now).1
      (gateway.handleFrame frame now).2 :=
  frameEffect_handlePayload (gateway.noteActivity now) frame now

end Gateway

end DiagnosticGateway
