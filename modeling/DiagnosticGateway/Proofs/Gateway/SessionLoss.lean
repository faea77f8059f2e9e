/-
Module: DiagnosticGateway.Proofs.Gateway.SessionLoss
Purpose: The three ways in which an active session is lost, and what a step does then.
Main exports:
  SameButTimes, LosesSession, LosesSession.step_eq
-/
import DiagnosticGateway.Proofs.Gateway.Exchange
import DiagnosticGateway.Proofs.Gateway.Programming
import DiagnosticGateway.Proofs.Routing.Session

/-!
A session belongs to the tester that activated it.  It is lost when the alive check expires, when
the host ends it, and when another tester activates routing.  Each of the three gives the download up
before it reports the loss.
-/

namespace DiagnosticGateway

/-- Two gateways that differ at most in the time of the last sign of life and in that of the pending
alive check. -/
def SameButTimes (gateway next : Gateway) : Prop :=
  ∃ lastActivity pendingSince,
    next =
      { gateway with
        routing :=
          { gateway.routing with lastActivity := lastActivity, pendingSince := pendingSince } }

namespace SameButTimes

variable {gateway next : Gateway}

theorem telemetry (times : SameButTimes gateway next) : next.telemetry = gateway.telemetry := by
  obtain ⟨lastActivity, pendingSince, rfl⟩ := times
  rfl

theorem state (times : SameButTimes gateway next) :
    next.routing.state = gateway.routing.state := by
  obtain ⟨lastActivity, pendingSince, rfl⟩ := times
  rfl

end SameButTimes

/-- An input ends the active session of a gateway or hands it to another tester, and the event
reports that. -/
inductive LosesSession (gateway : Gateway) : GatewayInput → GatewayEvent → Prop where
  /-- The peer has stopped answering alive checks. -/
  | expired {now : Time} (expired : (gateway.routing.poll now).1 = .expired) :
      LosesSession gateway (.poll now) (.routingExpired gateway.routing.peer)
  /-- The host ends the session. -/
  | deactivated (active : gateway.routing.isActive = true) :
      LosesSession gateway .deactivate .routingDeactivated
  /-- Another tester than the owner activates routing. -/
  | takenOver {frame : Frame} {now : Time} {request : ActivationRequest} {owner : UInt16}
      (activation : frame.payloadType = .routingActivationRequest)
      (parsed : ActivationRequest.parse frame.payload = .ok request)
      (owned : gateway.routing.accepts owner = true) (other : owner ≠ request.source) :
      LosesSession gateway (.frame frame now)
        (.routingActivated request.source request.activationType)

namespace Gateway

variable {gateway : Gateway} {request : ActivationRequest} {now : Time}

theorem handleActivation_of_takeover {owner : UInt16}
    (owned : gateway.routing.accepts owner = true) (other : owner ≠ request.source) :
    gateway.handleActivation request now =
      ({ frames := [(gateway.routing.activate request now).1.toFrame]
         events := gateway.abortDownload.1 ++
          [.routingActivated request.source request.activationType] },
        { gateway.abortDownload.2 with
          routing := (gateway.routing.activate request now).2 }) := by
  obtain ⟨active, peer⟩ := Routing.accepts_iff.mp owned
  simp [handleActivation, active, peer, other]

theorem handleActivation_of_alone
    (alone : ∀ owner, gateway.routing.accepts owner = true → owner = request.source) :
    gateway.handleActivation request now =
      ({ frames := [(gateway.routing.activate request now).1.toFrame]
         events := [.routingActivated request.source request.activationType] },
        { gateway with routing := (gateway.routing.activate request now).2 }) := by
  have stays : (gateway.routing.isActive && gateway.routing.peer.any (· != request.source)) =
      false := by
    cases peerEq : gateway.routing.peer with
    | none => simp
    | some owner =>
        cases activeEq : gateway.routing.isActive with
        | false => simp
        | true => simp [alone owner (Routing.accepts_iff.mpr ⟨activeEq, peerEq⟩)]
  simp [handleActivation, stays]

theorem noteActivity_of_active (active : gateway.routing.isActive = true) :
    gateway.noteActivity now = { gateway with routing := gateway.routing.touch now } := by
  simp [noteActivity, active]

theorem sameButTimes_noteActivity (gateway : Gateway) (now : Time) :
    SameButTimes gateway (gateway.noteActivity now) := by
  unfold noteActivity
  split
  · exact ⟨_, _, rfl⟩
  · exact ⟨_, _, rfl⟩

theorem isActive_noteActivity (gateway : Gateway) (now : Time) :
    (gateway.noteActivity now).routing.isActive = gateway.routing.isActive := by
  unfold noteActivity
  split <;> rfl

@[simp] theorem peer_noteActivity (gateway : Gateway) (now : Time) :
    (gateway.noteActivity now).routing.peer = gateway.routing.peer := by
  unfold noteActivity
  split <;> rfl

@[simp] theorem download_noteActivity (gateway : Gateway) (now : Time) :
    (gateway.noteActivity now).download = gateway.download := by
  unfold noteActivity
  split <;> rfl

end Gateway

namespace LosesSession

variable {gateway : Gateway} {input : GatewayInput} {event : GatewayEvent}

theorem isActive (loses : LosesSession gateway input event) :
    gateway.routing.isActive = true := by
  cases loses with
  | expired expired => exact (Routing.poll_of_expired expired).1
  | deactivated active => exact active
  | takenOver _ _ owned _ => exact (Routing.accepts_iff.mp owned).1

theorem noReset (loses : LosesSession gateway input event) : input ≠ .reset := by
  rintro rfl
  cases loses

theorem isTransfer_event (loses : LosesSession gateway input event) :
    event.isTransfer = false := by
  cases loses <;> rfl

/-- When a session is lost the download is given up, and after that the loss is reported. -/
theorem step_eq (loses : LosesSession gateway input event) :
    ∃ frames routing, frames.filterMap Frame.serviceData? = [] ∧
      gateway.step input =
        ({ frames := frames, events := gateway.abortDownload.1 ++ [event] },
          { gateway.abortDownload.2 with routing := routing }) := by
  have active := loses.isActive
  cases loses with
  | expired expired =>
      refine ⟨[], gateway.routing.deactivate, rfl, ?_⟩
      have left := (Routing.poll_of_expired expired).2
      simp only [Gateway.step, Gateway.pollAliveCheck, left]
      rw [Gateway.abortDownload_withRouting]
      simp only [Routing.peer_deactivate]
  | deactivated _ =>
      refine ⟨[], gateway.routing.deactivate, rfl, ?_⟩
      simp only [Gateway.step, Gateway.deactivate, active, if_true]
      rw [Gateway.abortDownload_withRouting]
  | @takenOver frame now request owner activation parsed owned other =>
      let activated := (gateway.routing.touch now).activate request now
      refine ⟨[activated.1.toFrame], activated.2, rfl, ?_⟩
      simp only [Gateway.step, Gateway.handleFrame, Gateway.noteActivity_of_active active,
        activation, Gateway.handlePayload, Gateway.orRefuse, parsed]
      have touched : { gateway with routing := gateway.routing.touch now }.routing.accepts owner =
        true := owned
      rw [Gateway.handleActivation_of_takeover touched other, Gateway.abortDownload_withRouting]

end LosesSession

end DiagnosticGateway
