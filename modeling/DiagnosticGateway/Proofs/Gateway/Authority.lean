/-
Module: DiagnosticGateway.Proofs.Gateway.Authority
Purpose: Which frames may change which part of a gateway.
Main exports:
  Commands, KeepsDownload, KeepsCollections, KeepsRecords, Authorized, Recorded,
  frame_changes_authorized
-/
import DiagnosticGateway.Proofs.Gateway.DownloadStep

/-!
A gateway keeps five things that frames can change: the download with its inspected header, the two
collections, the records of other units, and the session.  Each of them has its own frames.  The
download and the collections obey the active tester; another tester can only end a download, by
taking the session over.  The records follow the reports of the session, whoever sends them, and the
session follows the activations.
-/

namespace DiagnosticGateway

/-! ## Who may change what -/

/-- The download is left alone, and so is the header that was inspected. -/
structure KeepsDownload (gateway next : Gateway) : Prop where
  download : next.download = gateway.download
  inspected : next.inspected = gateway.inspected

/-- No collection is started or ended. -/
structure KeepsCollections (gateway next : Gateway) : Prop where
  vci : next.collectingVci = gateway.collectingVci
  readiness : next.checkingReadiness = gateway.checkingReadiness

/-- At most the session and the download are touched. -/
structure KeepsRecords (gateway next : Gateway) : Prop extends KeepsCollections gateway next where
  telemetry : next.telemetry = gateway.telemetry

/-- A frame brings the gateway a message of a service from its active tester. -/
structure Commands (gateway : Gateway) (frame : Frame) (service : UInt8) : Prop where
  active : gateway.routing.state = .active
  sent : ∃ message, frame.diagnostic? = some message ∧
    gateway.routing.peer = some message.source ∧ message.target = gateway.localAddress ∧
    message.userData.head? = some service

/-- A frame may change the download or the collections of a gateway in the way it did. -/
inductive Authorized (gateway : Gateway) (frame : Frame) (next : Gateway) : Prop where
  /-- The active tester asks for a routine, and the download stays as it is. -/
  | routine (commands : Commands gateway frame 0x31) (kept : KeepsDownload gateway next)
  /-- The active tester asks for a programming service, and the collections stay as they are. -/
  | programming {service : UInt8} (offered : service ∈ [0x34, 0x36, 0x37])
      (commands : Commands gateway frame service) (kept : KeepsCollections gateway next)
  /-- Another tester than the owner activates routing: the active download fails and forgets the bytes
  that came, and nothing else. -/
  | takeover {owner : UInt16} {request : ActivationRequest}
      (activation : frame.payloadType = .routingActivationRequest)
      (parsed : ActivationRequest.parse frame.payload = .ok request)
      (owned : gateway.routing.accepts owner = true) (other : owner ≠ request.source)
      (active : gateway.download.isActive = true)
      (failed : next.download = { gateway.download with state := .failed, received := [] })
      (cleared : next.inspected = none)
      (kept : KeepsCollections gateway next)

/-- A report changes the records of its kind and no others. -/
inductive Recorded (gateway : Gateway) (frame : Frame) (next : Gateway) : Prop where
  | vci (kind : frame.payloadType = .vciReport)
      (health : next.telemetry.health = gateway.telemetry.health)
      (readiness : next.telemetry.readiness = gateway.telemetry.readiness)
  | health (kind : frame.payloadType = .healthReport)
      (vci : next.telemetry.vci = gateway.telemetry.vci)
      (readiness : next.telemetry.readiness = gateway.telemetry.readiness)
  | readiness (kind : frame.payloadType = .readinessReport)
      (vci : next.telemetry.vci = gateway.telemetry.vci)
      (health : next.telemetry.health = gateway.telemetry.health)

/-! ## What every frame obeys -/

/-- A message from the owner is a command of its service. -/
theorem FromOwner.commands {gateway : Gateway} {frame : Frame} {message : DiagnosticMessage}
    {uds : UdsMessage} (owner : FromOwner gateway frame message uds) :
    Commands gateway frame uds.service := by
  obtain ⟨active, peer⟩ := Routing.accepts_iff.mp owner.accepted
  have named := UdsMessage.head?_of_decode owner.decoded
  exact ⟨Routing.isActive_iff.mp active, message, owner.carried, peer, owner.addressed, named⟩

/-- A service touches neither the session nor the records of other units. -/
theorem Served.Effect.sameSession {gateway : Gateway} {service : UInt8} {served : Served}
    (effect : Effect gateway service served) :
    SameSession gateway served.gateway ∧ served.gateway.telemetry = gateway.telemetry := by
  cases effect with
  | refused | told | reported | programmed | failed => exact ⟨⟨rfl, rfl, rfl⟩, rfl⟩
  | collected subject => cases subject <;> exact ⟨⟨rfl, rfl, rfl⟩, rfl⟩

/-- What a request of the active tester changes is what its service may change. -/
theorem Served.Effect.authorized {gateway : Gateway} {frame : Frame} {service : UInt8}
    {served : Served} (effect : Effect gateway service served)
    (commands : Commands gateway frame service) :
    (KeepsDownload gateway served.gateway ∧ KeepsCollections gateway served.gateway) ∨
      Authorized gateway frame served.gateway := by
  cases effect with
  | refused | told | reported => exact .inl ⟨⟨rfl, rfl⟩, ⟨rfl, rfl⟩⟩
  | collected subject flag offered =>
      right
      rw [offered] at commands
      apply Authorized.routine commands
      cases subject <;> exact ⟨rfl, rfl⟩
  | programmed download inspected offered =>
      exact .inr (.programming offered commands ⟨rfl, rfl⟩)
  | failed download fault offered => exact .inr (.programming offered commands ⟨rfl, rfl⟩)

namespace FrameEffect

variable {gateway next : Gateway} {frame : Frame} {now : Time} {output : GatewayOutput}

/-- The download and the collections change for a command of the active tester or a takeover. -/
theorem authorized (effect : FrameEffect gateway frame now output next) :
    (KeepsDownload gateway next ∧ KeepsCollections gateway next) ∨
      Authorized gateway frame next := by
  -- Only a takeover and a served request get as far as that; what is served is up to its service.
  cases effect with
  | refused | ignored | activated | aliveAsked | aliveAnswered | vciReported | healthReported
  | readinessReported | unrouted | wrongSource | wrongTarget | responded =>
      exact .inl ⟨⟨rfl, rfl⟩, ⟨rfl, rfl⟩⟩
  | takenOver activation parsed owned other active =>
      exact .inr (.takeover activation parsed owned other active rfl rfl ⟨rfl, rfl⟩)
  | served owner => exact (gateway.effect_serve _).authorized owner.commands

/-- The records of other units change for a report of their kind. -/
theorem recorded (effect : FrameEffect gateway frame now output next) :
    next.telemetry = gateway.telemetry ∨
      gateway.routing.state = .active ∧ Recorded gateway frame next := by
  cases effect with
  | refused | ignored | activated | takenOver | aliveAsked | aliveAnswered | unrouted
  | wrongSource | wrongTarget | responded => exact .inl rfl
  | vciReported kind active => exact .inr ⟨Routing.isActive_iff.mp active, .vci kind rfl rfl⟩
  | healthReported kind active =>
      exact .inr ⟨Routing.isActive_iff.mp active, .health kind rfl rfl⟩
  | readinessReported kind active =>
      exact .inr ⟨Routing.isActive_iff.mp active, .readiness kind rfl rfl⟩
  | served => exact .inl (gateway.effect_serve _).sameSession.2

/-- The session changes for an activation. -/
theorem session (effect : FrameEffect gateway frame now output next) :
    SameSession gateway next ∨
      frame.payloadType = .routingActivationRequest ∧
        ∃ request, ActivationRequest.parse frame.payload = .ok request := by
  cases effect with
  | refused | ignored | aliveAsked | aliveAnswered | vciReported | healthReported
  | readinessReported | unrouted | wrongSource | wrongTarget | responded =>
      exact .inl ⟨rfl, rfl, rfl⟩
  | activated activation parsed => exact .inr ⟨activation, _, parsed⟩
  | takenOver activation parsed => exact .inr ⟨activation, _, parsed⟩
  | served => exact .inl (gateway.effect_serve _).sameSession.1

end FrameEffect

/-! ## The sign of life -/

section

variable {gateway touched next : Gateway} {frame : Frame}

theorem KeepsDownload.of_sameButTimes (times : SameButTimes gateway touched)
    (kept : KeepsDownload touched next) : KeepsDownload gateway next := by
  obtain ⟨lastActivity, pendingSince, rfl⟩ := times
  exact ⟨kept.download, kept.inspected⟩

theorem KeepsCollections.of_sameButTimes (times : SameButTimes gateway touched)
    (kept : KeepsCollections touched next) : KeepsCollections gateway next := by
  obtain ⟨lastActivity, pendingSince, rfl⟩ := times
  exact ⟨kept.vci, kept.readiness⟩

/-- A sign of life gives nobody a right that was not there before. -/
theorem Commands.of_sameButTimes {service : UInt8} (times : SameButTimes gateway touched)
    (commands : Commands touched frame service) : Commands gateway frame service := by
  obtain ⟨lastActivity, pendingSince, rfl⟩ := times
  exact ⟨commands.active, commands.sent⟩

theorem Authorized.of_sameButTimes (times : SameButTimes gateway touched)
    (authorized : Authorized touched frame next) : Authorized gateway frame next := by
  cases authorized with
  | routine commands kept =>
      exact .routine (commands.of_sameButTimes times) (kept.of_sameButTimes times)
  | programming offered commands kept =>
      exact .programming offered (commands.of_sameButTimes times) (kept.of_sameButTimes times)
  | takeover activation parsed owned other active failed cleared kept =>
      have collections := kept.of_sameButTimes times
      obtain ⟨lastActivity, pendingSince, rfl⟩ := times
      exact .takeover activation parsed owned other active failed cleared collections

theorem Recorded.of_sameButTimes (times : SameButTimes gateway touched)
    (recorded : Recorded touched frame next) : Recorded gateway frame next := by
  obtain ⟨lastActivity, pendingSince, rfl⟩ := times
  cases recorded with
  | vci kind health readiness => exact .vci kind health readiness
  | health kind vci readiness => exact .health kind vci readiness
  | readiness kind vci health => exact .readiness kind vci health

end

/-! ## Inputs that are no frames -/

namespace Gateway

theorem keepsRecords_abortDownload (gateway : Gateway) :
    KeepsRecords gateway gateway.abortDownload.2 := by
  unfold abortDownload
  split <;> exact ⟨⟨rfl, rfl⟩, rfl⟩

/-- The end of a session leaves the collections and the records for the next one. -/
theorem keepsRecords_pollAliveCheck (gateway : Gateway) (now : Time) :
    KeepsRecords gateway (gateway.pollAliveCheck now).2 := by
  unfold pollAliveCheck
  obtain ⟨check, routing⟩ := gateway.routing.poll now
  have expired := keepsRecords_abortDownload { gateway with routing := routing }
  cases check with
  | notDue | send => exact ⟨⟨rfl, rfl⟩, rfl⟩
  | expired => exact ⟨⟨expired.vci, expired.readiness⟩, expired.telemetry⟩

theorem keepsRecords_deactivate (gateway : Gateway) :
    KeepsRecords gateway gateway.deactivate.2 := by
  have ended := keepsRecords_abortDownload { gateway with routing := gateway.routing.deactivate }
  unfold deactivate
  dsimp only
  split
  · exact ⟨⟨ended.vci, ended.readiness⟩, ended.telemetry⟩
  · exact ⟨⟨rfl, rfl⟩, rfl⟩

end Gateway

/-- A frame changes the download and the collections only as a command of the active tester or as a
takeover, the records of other units only as a report of their kind in an active session, and the
session only as an activation. -/
theorem frame_changes_authorized (gateway : Gateway) (frame : Frame) (now : Time) :
    let next := (gateway.step (.frame frame now)).2
    ((KeepsDownload gateway next ∧ KeepsCollections gateway next) ∨
      Authorized gateway frame next) ∧
    (next.telemetry = gateway.telemetry ∨
      gateway.routing.state = .active ∧ Recorded gateway frame next) ∧
    (SameSession gateway next ∨
      frame.payloadType = .routingActivationRequest ∧
        ∃ request, ActivationRequest.parse frame.payload = .ok request) := by
  intro next
  have effect : FrameEffect (gateway.noteActivity now) frame now _ next :=
    gateway.frameEffect_handleFrame frame now
  have noted := gateway.sameButTimes_noteActivity now
  refine ⟨?_, ?_, ?_⟩
  · rcases effect.authorized with ⟨download, collections⟩ | authorized
    · exact .inl ⟨download.of_sameButTimes noted, collections.of_sameButTimes noted⟩
    · exact .inr (authorized.of_sameButTimes noted)
  · rcases effect.recorded with same | ⟨active, recorded⟩
    · exact .inl (same.trans noted.telemetry)
    · exact .inr ⟨noted.state.symm.trans active, recorded.of_sameButTimes noted⟩
  · rcases effect.session with same | activation
    · exact .inl (same.of_sameButTimes noted)
    · exact .inr activation

/-- The active tester opens a download. -/
theorem frame_changes_authorized_sample :
    ∃ gateway frame, Reaches {} [(Gateway.ofConfig {}).exchange sampleActivation] gateway ∧
      ¬KeepsDownload gateway (gateway.step (.frame frame 0)).2 ∧
      Authorized gateway frame (gateway.step (.frame frame 0)).2 := by
  let gateway := ((Gateway.ofConfig {}).step sampleActivation).2
  let opening : DiagnosticMessage :=
    { source := 0x0E00, target := 0x0100, userData := [0x34, 0x00, 0x11, 0x10, 0x40] }
  have reached : Reaches {} [(Gateway.ofConfig {}).exchange sampleActivation] gateway :=
    (Reaches.start rfl).step sampleActivation
  have opened : ¬KeepsDownload gateway (gateway.step (.frame opening.toFrame 0)).2 := by
    intro kept
    have idle := congrArg Download.state kept.download
    have started : (gateway.step (.frame opening.toFrame 0)).2.download.state = .downloading := by
      decide
    rw [started] at idle
    cases idle
  obtain ⟨⟨kept, -⟩ | authorized, -, -⟩ := frame_changes_authorized gateway opening.toFrame 0
  · exact absurd kept opened
  · exact ⟨gateway, opening.toFrame, reached, opened, authorized⟩

end DiagnosticGateway
