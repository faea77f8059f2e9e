/-
Module: DiagnosticGateway.Proofs.Gateway.Ownership
Purpose: A download belongs to the tester that opened it and does not outlive the session.
Main exports:
  GivesUpBefore, download_owned_by_opener
-/
import DiagnosticGateway.Proofs.Gateway.OpenDownload

/-!
The routing session and the download are two state machines that share nothing but the gateway.  A
download starts only in the session of the tester that asks for it, and every step that loses the
session ends the download as well.  An activation that loses nothing is one by the owner.
-/

namespace DiagnosticGateway

/-- A step fails the download, with the code of a wrong sequence, drops what was received, and
reports `event` after that. -/
structure GivesUpBefore (event : GatewayEvent) (outcome : GatewayOutput × Gateway) : Prop where
  events : ∃ fault, outcome.1.events = [.transferFailed fault, event] ∧ fault.code.code = 0x24
  failed : outcome.2.download.state = .failed
  emptied : outcome.2.download.received = []

/-- An active download is given up when the session is lost. -/
theorem LosesSession.givesUpBefore {gateway : Gateway} {input : GatewayInput}
    {event : GatewayEvent} (loses : LosesSession gateway input event)
    (active : gateway.download.isActive = true) : GivesUpBefore event (gateway.step input) := by
  obtain ⟨frames, routing, -, stepEq⟩ := loses.step_eq
  rw [stepEq, Gateway.abortDownload_of_active active]
  exact ⟨⟨.routingInactive, rfl, rfl⟩, rfl, rfl⟩

/-- The owner of an active download is not changed by a step that does not lose the session. -/
theorem DownloadStep.owner_kept {gateway next : Gateway} {input : GatewayInput}
    {output : GatewayOutput} {tester : UInt16} (step : DownloadStep gateway input output next)
    (noReset : input ≠ .reset) (kept : ∀ event, ¬LosesSession gateway input event)
    (active : gateway.download.isActive = true)
    (owned : gateway.routing.accepts tester = true) : next.routing.accepts tester = true := by
  cases step with
  | quiet _ session => exact (session.accepts tester).trans owned
  | opened _ session => exact (session.accepts tester).trans owned
  | received _ session => exact (session.accepts tester).trans owned
  | headerRefused _ session => exact (session.accepts tester).trans owned
  | completed _ session => exact (session.accepts tester).trans owned
  | packageRefused _ session => exact (session.accepts tester).trans owned
  | aborted loses => exact absurd loses (kept _)
  | sessionEnded _ inactive =>
      rw [inactive] at active
      cases active
  | @activated _ _ _ claimant _ alone _ accepts =>
      have same : tester = claimant := alone tester owned
      rw [same]
      exact accepts
  | reset => exact absurd rfl noReset

/-- The tester that is known already loses nothing by activating routing again. -/
theorem Gateway.download_of_reactivation {gateway : Gateway} {frame : Frame} {now : Time}
    {request : ActivationRequest} (activation : frame.payloadType = .routingActivationRequest)
    (parsed : ActivationRequest.parse frame.payload = .ok request)
    (known : gateway.routing.peer = some request.source) :
    (gateway.step (.frame frame now)).2.download = gateway.download := by
  have stillKnown : (gateway.noteActivity now).routing.peer = some request.source := by
    rw [peer_noteActivity, known]
  have alone : ∀ owner, (gateway.noteActivity now).routing.accepts owner = true →
      owner = request.source := by
    intro owner owned
    have peer := (Routing.accepts_iff.mp owned).2
    exact Option.some.inj (peer.symm.trans stillKnown)
  simp only [step, handleFrame, activation, handlePayload, orRefuse, parsed]
  rw [handleActivation_of_alone alone]
  exact download_noteActivity gateway now

/-- While a download is active, routing is active for the tester that opened it.  A step that loses
the session gives the download up first; no other step but a reset takes the session from its owner.
An activation by the tester that is known already does not touch the download. -/
theorem download_owned_by_opener {config : GatewayConfig} {history : List Exchange}
    {gateway : Gateway} (reached : Reaches config history gateway) :
    (gateway.download.isActive = true →
      (∃ between tester,
        OpenSince history between tester gateway.download.address gateway.download.total ∧
          gateway.routing.state = .active ∧ gateway.routing.peer = some tester) ∧
      (∀ input event, LosesSession gateway input event →
        GivesUpBefore event (gateway.step input)) ∧
      (∀ input, input ≠ .reset → (∀ event, ¬LosesSession gateway input event) →
        (gateway.step input).2.routing.state = .active ∧
          (gateway.step input).2.routing.peer = gateway.routing.peer)) ∧
    ∀ frame now request, frame.payloadType = .routingActivationRequest →
      ActivationRequest.parse frame.payload = .ok request →
      gateway.routing.peer = some request.source →
      (gateway.step (.frame frame now)).2.download = gateway.download := by
  refine ⟨fun active => ?_, fun frame now request => Gateway.download_of_reactivation⟩
  obtain ⟨between, tester, tracks⟩ := reached.tracked active
  obtain ⟨sessionActive, peer⟩ := Routing.accepts_iff.mp tracks.owner
  refine ⟨?_, ?_, ?_⟩
  · exact ⟨between, tester, tracks.since, Routing.isActive_iff.mp sessionActive, peer⟩
  · intro input event loses
    exact loses.givesUpBefore active
  · intro input noReset kept
    have owned := (downloadStep_step gateway input).owner_kept noReset kept active tracks.owner
    obtain ⟨stillActive, stillPeer⟩ := Routing.accepts_iff.mp owned
    exact ⟨Routing.isActive_iff.mp stillActive, stillPeer.trans peer.symm⟩

/-- A download of three bytes that is opened and gets no block. -/
def sampleOpening : List GatewayInput :=
  [sampleActivation, sampleRequest [0x34, 0x00, 0x11, 0x10, 0x03]]

theorem download_owned_by_opener_sample :
    ∃ gateway,
      Reaches {} ((Gateway.ofConfig {}).history sampleOpening) gateway ∧
        gateway.routing.peer = some 0x0E00 ∧
        GivesUpBefore .routingDeactivated (gateway.step .deactivate) := by
  have reached : Reaches {} ((Gateway.ofConfig {}).history sampleOpening)
      ((Gateway.ofConfig {}).run sampleOpening).2 :=
    reaches_iff_run.mpr ⟨_, _, rfl, rfl, rfl⟩
  obtain ⟨-, givesUp, -⟩ := (download_owned_by_opener reached).1 rfl
  exact ⟨_, reached, rfl, givesUp _ _ (.deactivated rfl)⟩

end DiagnosticGateway
