/-
Module: DiagnosticGateway.Proofs.Gateway.SessionStep
Purpose: What an input can do to the routing session of a gateway.
Main exports:
  FrameEffect.routing, Gateway.activates_or_isActive, Reaches.interval, Reaches.timeout
-/
import DiagnosticGateway.Proofs.Gateway.OpenDownload

/-!
A frame leaves the session as it is, counts as a sign of life, or activates routing and says so.  So a
session that is active after an input was active before it, or was activated by it.  Its alive-check
interval and its timeout never change.
-/

namespace DiagnosticGateway

/-- Serving a request does not touch the session. -/
theorem Served.Effect.routing {gateway : Gateway} {service : UInt8} {served : Served}
    (effect : Served.Effect gateway service served) : served.gateway.routing = gateway.routing := by
  cases effect with
  | refused | told | reported | programmed | failed => rfl
  | collected subject => cases subject <;> rfl

/-- Whether an activation is among the events of an output. -/
def GatewayOutput.activates (output : GatewayOutput) : Bool :=
  output.events.any GatewayEvent.isActivation

/-- A frame leaves the session as it is, counts as a sign of life, or activates routing. -/
theorem FrameEffect.routing {gateway next : Gateway} {frame : Frame} {now : Time}
    {output : GatewayOutput} (effect : FrameEffect gateway frame now output next) :
    next.routing = gateway.routing ∨ next.routing = gateway.routing.touch now ∨
      ∃ request, next.routing = (gateway.routing.activate request now).2 ∧
        output.activates = true := by
  cases effect with
  | refused | ignored | aliveAsked | vciReported | healthReported | readinessReported | unrouted
  | wrongSource | wrongTarget | responded => exact .inl rfl
  | served => exact .inl (Gateway.effect_serve _ _).routing
  | aliveAnswered => exact .inr (.inl rfl)
  | activated | takenOver => exact .inr (.inr ⟨_, rfl, rfl⟩)

namespace Gateway

variable (gateway : Gateway)

theorem settings_noteActivity (now : Time) :
    (gateway.noteActivity now).routing.interval = gateway.routing.interval ∧
      (gateway.noteActivity now).routing.timeout = gateway.routing.timeout := by
  unfold noteActivity
  split
  · exact ⟨rfl, rfl⟩
  · exact ⟨rfl, rfl⟩

theorem routing_pollAliveCheck (now : Time) :
    (gateway.pollAliveCheck now).2.routing = (gateway.routing.poll now).2 := by
  unfold pollAliveCheck
  dsimp only
  split
  · rfl
  · rfl
  · exact routing_abortDownload _

theorem routing_deactivate : gateway.deactivate.2.routing = gateway.routing.deactivate := by
  unfold deactivate
  dsimp only
  split
  · exact routing_abortDownload _
  · rfl

/-- A session that is active after an input was active before, or the input activates it. -/
theorem activates_or_isActive {input : GatewayInput}
    (active : (gateway.step input).2.routing.isActive = true) :
    (gateway.step input).1.activates = true ∨ gateway.routing.isActive = true := by
  cases input with
  | frame frame now =>
      have noted := gateway.isActive_noteActivity now
      rcases (gateway.frameEffect_handleFrame frame now).routing with kept | touched | activated
      · rw [step, kept, noted] at active
        exact .inr active
      · rw [step, touched] at active
        exact .inr (noted.symm.trans active)
      · obtain ⟨request, -, activates⟩ := activated
        exact .inl activates
  | poll now =>
      rw [step, routing_pollAliveCheck] at active
      rcases gateway.routing.poll_cases now with quiet | ⟨request, next, sent, state, -⟩ | expired
      · rw [quiet] at active
        exact .inr active
      · rw [sent, Routing.isActive_iff, state] at active
        exact .inr (Routing.isActive_iff.mpr active)
      · exact .inr expired.1
  | deactivate =>
      rw [step, routing_deactivate] at active
      cases before : gateway.routing.isActive with
      | true => exact .inr rfl
      | false =>
          rw [Routing.isActive_iff, Routing.state_deactivate before] at active
          exact absurd (Routing.isActive_iff.mpr active) (by simp [before])
  | reset => cases active

theorem settings_poll (routing : Routing) (now : Time) :
    (routing.poll now).2.interval = routing.interval ∧
      (routing.poll now).2.timeout = routing.timeout := by
  have outcome := routing.pollOutcome_poll now
  generalize routing.poll now = polled at outcome ⊢
  cases outcome with
  | notDue | sent | expired => exact ⟨rfl, rfl⟩

theorem settings_step {input : GatewayInput} (noReset : input ≠ .reset) :
    (gateway.step input).2.routing.interval = gateway.routing.interval ∧
      (gateway.step input).2.routing.timeout = gateway.routing.timeout := by
  cases input with
  | frame frame now =>
      have noted := gateway.settings_noteActivity now
      rcases (gateway.frameEffect_handleFrame frame now).routing with kept | touched | activated
      · rw [step, kept]
        exact noted
      · rw [step, touched]
        exact noted
      · obtain ⟨request, activated, -⟩ := activated
        rw [step, activated]
        exact noted
  | poll now =>
      rw [step, routing_pollAliveCheck]
      exact settings_poll gateway.routing now
  | deactivate =>
      rw [step, routing_deactivate]
      exact ⟨rfl, rfl⟩
  | reset => exact absurd rfl noReset

end Gateway

namespace Reaches

variable {config : GatewayConfig} {history : List Exchange} {gateway : Gateway}

/-- The alive-check interval and the timeout are always those of the settings. -/
theorem aliveCheck (reached : Reaches config history gateway) :
    gateway.routing.interval = config.aliveCheck.intervalMs.toNat ∧
      gateway.routing.timeout = config.aliveCheck.timeout := by
  induction reached with
  | start started =>
      obtain ⟨-, rfl⟩ := Gateway.start?_eq_ok_iff.mp started
      exact ⟨rfl, rfl⟩
  | @step history gateway reached input inductionHypothesis =>
      by_cases resets : input = .reset
      · have settings := reached.settings.1
        rw [resets, Gateway.step, Gateway.reset, settings]
        exact ⟨rfl, rfl⟩
      · obtain ⟨interval, timeout⟩ := gateway.settings_step resets
        rw [interval, timeout]
        exact inductionHypothesis

theorem interval (reached : Reaches config history gateway) :
    gateway.routing.interval = config.aliveCheck.intervalMs.toNat := reached.aliveCheck.1

theorem timeout (reached : Reaches config history gateway) :
    gateway.routing.timeout = config.aliveCheck.timeout := reached.aliveCheck.2

end Reaches

end DiagnosticGateway
