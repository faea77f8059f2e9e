/-
Module: DiagnosticGateway.Proofs.Gateway.Bracketing
Purpose: Downloads are opened and ended in turn, and a request that ends one by failing is told why.
Main exports:
  GatewayEvent.endsTransfer, Bracketed, Bracketing, Reaches.bracketing, download_events_bracketed
-/
import DiagnosticGateway.Proofs.Gateway.Upload

/-!
The events of downloads come from six places: one opens a download, one delivers an image, and the
others give a download up.  `Bracketing` reads the events alone and says whether they leave a
download open; every step keeps that in agreement with the gateway.  A reset forgets a download
without a word, so nothing is said about runs with resets.
-/

namespace DiagnosticGateway

/-! ## Events in turn -/

/-- Whether an event ends a download. -/
def GatewayEvent.endsTransfer : GatewayEvent → Bool
  | .transferCompleted _ _ | .transferFailed _ => true
  | .transferStarted _ _ | .routingActivated _ _ | .routingExpired _ | .routingDeactivated
  | .aliveCheckAnswered _ | .vciReported _ | .healthReported _ | .readinessReported _
  | .responseReceived _ _ | .routineStarted _ => false

/-- Whole downloads, one after the other: every opening is followed by exactly one end, and no end
comes without its opening. -/
inductive Bracketed : List GatewayEvent → Prop where
  | nil : Bracketed []
  | cons {ending : GatewayEvent} {rest : List GatewayEvent} (address size : UInt32)
      (ends : ending.endsTransfer = true) (later : Bracketed rest) :
      Bracketed (.transferStarted address size :: ending :: rest)

namespace Bracketed

theorem append {front back : List GatewayEvent} (first : Bracketed front)
    (second : Bracketed back) : Bracketed (front ++ back) := by
  induction first with
  | nil => exact second
  | cons address size ends later inductionHypothesis =>
      exact .cons address size ends inductionHypothesis

/-- The last of whole downloads has been ended. -/
theorem ends_getLast {events : List GatewayEvent} {event : GatewayEvent}
    (whole : Bracketed events) (last : events.getLast? = some event) :
    event.endsTransfer = true := by
  induction whole with
  | nil => cases last
  | @cons ending rest address size ends later inductionHypothesis =>
      cases later with
      | nil =>
          cases last
          exact ends
      | cons =>
          apply inductionHypothesis
          rwa [List.getLast?_cons_cons, List.getLast?_cons_cons] at last

end Bracketed

/-- Events are whole downloads, or whole downloads and then the opening of one that is not ended;
the flag says whether one is open. -/
inductive Bracketing (events : List GatewayEvent) : Bool → Prop where
  | closed (whole : Bracketed events) : Bracketing events false
  | opened {before : List GatewayEvent} {address size : UInt32} (whole : Bracketed before)
      (last : events = before ++ [.transferStarted address size]) : Bracketing events true

namespace Bracketing

variable {events : List GatewayEvent} {active : Bool}

theorem start (bracketing : Bracketing events false) (address size : UInt32) :
    Bracketing (events ++ [.transferStarted address size]) true := by
  cases bracketing with
  | closed whole => exact .opened whole rfl

theorem finish {ending : GatewayEvent} (bracketing : Bracketing events true)
    (ends : ending.endsTransfer = true) : Bracketing (events ++ [ending]) false := by
  cases bracketing with
  | @opened before address size whole last =>
      rw [last, List.append_assoc]
      exact .closed (whole.append (.cons address size ends .nil))

/-- What is open can still be ended. -/
theorem exists_whole (bracketing : Bracketing events active) :
    ∃ whole, Bracketed whole ∧ events <+: whole := by
  cases bracketing with
  | closed whole => exact ⟨events, whole, List.prefix_rfl⟩
  | @opened before address size whole last =>
      have ends : GatewayEvent.endsTransfer (.transferFailed .routingInactive) = true := rfl
      refine ⟨_, whole.append (.cons address size ends .nil), ?_⟩
      rw [last]
      exact ⟨[.transferFailed .routingInactive], List.append_assoc _ _ _⟩

/-- A download is open exactly when the last event is an opening. -/
theorem active_iff (bracketing : Bracketing events active) :
    active = true ↔ ∃ address size, events.getLast? = some (.transferStarted address size) := by
  cases bracketing with
  | closed whole =>
      simp only [Bool.false_eq_true, false_iff]
      rintro ⟨address, size, last⟩
      cases whole.ends_getLast last
  | @opened before address size whole last =>
      simp only [true_iff]
      exact ⟨address, size, by rw [last, List.getLast?_concat]⟩

end Bracketing

/-! ## What a step adds -/

namespace DownloadStep

variable {gateway next : Gateway} {input : GatewayInput} {output : GatewayOutput}

/-- A step opens a download where none is active, ends the active one, or says nothing and keeps it
as active as it was. -/
theorem bracketing {events : List GatewayEvent} (step : DownloadStep gateway input output next)
    (noReset : input ≠ .reset) (before : Bracketing events gateway.download.isActive) :
    Bracketing (events ++ output.transferEvents) next.download.isActive := by
  cases step with
  | quiet _ _ download _ silent => rwa [silent, download, List.append_nil]
  | opened _ _ download _ said =>
      obtain ⟨inactive, -, -, fresh⟩ := Download.request_eq_ok_iff.mp download
      rw [inactive] at before
      rw [said, fresh]
      exact before.start _ _
  | received _ _ download _ silent =>
      obtain ⟨active, -, -, -, -, -, extended⟩ := Download.receive_eq_ok_iff.mp download
      rw [active] at before
      rwa [silent, extended, Download.isActive_extend active, List.append_nil]
  | headerRefused _ _ received _ download _ said =>
      have active := (Download.receive_eq_ok_iff.mp received).1
      rw [active] at before
      rw [said, download]
      exact before.finish rfl
  | completed _ _ download _ _ said =>
      obtain ⟨awaiting, -, closed⟩ := Download.exit_eq_ok_iff.mp download
      rw [Download.isActive_of_awaitingExit awaiting] at before
      rw [said, closed]
      exact before.finish rfl
  | packageRefused _ _ exit _ download _ said =>
      have awaiting := (Download.exit_eq_ok_iff.mp exit).1
      rw [Download.isActive_of_awaitingExit awaiting] at before
      rw [said, download]
      exact before.finish rfl
  | @aborted _ _ _ event loses active _ download _ events =>
      have said : output.transferEvents = [.transferFailed .routingInactive] := by
        rw [GatewayOutput.transferEvents, events, List.filter_cons_of_pos rfl,
          List.filter_cons_of_neg (by simp [loses.isTransfer_event]), List.filter_nil]
      rw [active] at before
      rw [said, download]
      exact before.finish rfl
  | sessionEnded _ _ _ download _ silent => rwa [silent, download, List.append_nil]
  | activated _ _ _ _ download _ silent => rwa [silent, download, List.append_nil]
  | reset => exact absurd rfl noReset

end DownloadStep

/-- In a run without resets the events of downloads tell whether one is active. -/
theorem Reaches.bracketing {config : GatewayConfig} {history : List Exchange} {gateway : Gateway}
    (reached : Reaches config history gateway)
    (noReset : ∀ exchange ∈ history, exchange.input ≠ .reset) :
    Bracketing (transferEvents history) gateway.download.isActive := by
  induction reached with
  | start started =>
      obtain ⟨-, rfl⟩ := Gateway.start?_eq_ok_iff.mp started
      exact .closed .nil
  | @step history gateway reached input inductionHypothesis =>
      have before := inductionHypothesis fun exchange member =>
        noReset exchange (List.mem_append_left _ member)
      have last : input ≠ .reset :=
        noReset (gateway.exchange input) (List.mem_append_right _ (List.mem_singleton.mpr rfl))
      rw [transferEvents_append_singleton]
      exact (downloadStep_step gateway input).bracketing last before

/-! ## The answer to a request that fails a download -/

/-- A frame that carries a request names its service in the first byte of its service data. -/
theorem Frame.service_of_request {frame : Frame} {now : Time} {service : UInt8} {rest : Octets}
    {addressed : AddressedRequest} (data : frame.serviceData? = some (service :: rest))
    (asked : GatewayInput.request? (.frame frame now) = some addressed) :
    addressed.request.service = service := by
  obtain ⟨message, diagnostic, read⟩ := Option.bind_eq_some_iff.mp asked
  rw [Frame.serviceData?, diagnostic] at data
  obtain ⟨uds, decoded, parsed, -, -⟩ := DiagnosticMessage.request?_eq_some_iff.mp read
  have named := UdsMessage.head?_of_decode decoded
  rw [Option.some.inj data] at named
  rw [UdsRequest.service_of_parse parsed]
  exact (Option.some.inj named).symm

/-- A frame with service data that fails the download is answered with the code of the failure. -/
theorem DownloadStep.replies_of_failed {gateway next : Gateway} {frame : Frame} {now : Time}
    {output : GatewayOutput} {service : UInt8} {rest : Octets} {fault : GatewayFault}
    (step : DownloadStep gateway (.frame frame now) output next)
    (data : frame.serviceData? = some (service :: rest))
    (failed : .transferFailed fault ∈ output.events) :
    output.replies = [Service.negativeResponseBytes service fault.code] := by
  have said : .transferFailed fault ∈ output.transferEvents := List.mem_filter.mpr ⟨failed, rfl⟩
  cases step with
  | quiet _ _ _ _ events => simp [events] at said
  | opened _ _ _ _ events => simp [events] at said
  | received _ _ _ _ events => simp [events] at said
  | headerRefused asks _ _ _ _ _ events replies =>
      simp only [events, List.mem_singleton, GatewayEvent.transferFailed.injEq] at said
      rw [said, replies, ← Frame.service_of_request data asks.carried]
      rfl
  | completed _ _ _ _ _ events => simp [events] at said
  | packageRefused asks _ _ _ _ _ events replies =>
      simp only [events, List.mem_singleton, GatewayEvent.transferFailed.injEq] at said
      rw [said, replies, ← Frame.service_of_request data asks.carried]
      rfl
  | aborted loses =>
      -- A frame loses the session only as an activation, and that carries no service data.
      cases loses with
      | takenOver activation =>
          rw [Frame.serviceData?_eq_none (by simp [activation])] at data
          cases data
  | sessionEnded _ _ _ _ _ events => simp [events] at said
  | activated _ _ _ _ _ _ events => simp [events] at said

/-- In a run without resets every opening of a download is followed by exactly one delivery or
failure before the next, and neither comes without an opening; a download is active exactly when the
last of these events is an opening.  A frame with service data that fails the download is answered
with a negative response to its service, with the code of the failure. -/
theorem download_events_bracketed {config : GatewayConfig} {history : List Exchange}
    {gateway : Gateway} (reached : Reaches config history gateway)
    (noReset : ∀ exchange ∈ history, exchange.input ≠ .reset) :
    (∃ whole, Bracketed whole ∧ transferEvents history <+: whole) ∧
    (gateway.download.isActive = true ↔
      ∃ address size, (transferEvents history).getLast? = some (.transferStarted address size)) ∧
    ∀ frame now service rest fault, frame.serviceData? = some (service :: rest) →
      .transferFailed fault ∈ (gateway.step (.frame frame now)).1.events →
      (gateway.step (.frame frame now)).1.replies = [[0x7F, service, fault.code.code]] := by
  have bracketing := reached.bracketing noReset
  refine ⟨bracketing.exists_whole, bracketing.active_iff, ?_⟩
  intro frame now service rest fault data failed
  exact (downloadStep_step gateway (.frame frame now)).replies_of_failed data failed

/-- A download whose only block is a header of zeros. -/
def sampleBadBlock : Octets := 0x36 :: 0x01 :: List.replicate 64 0x00

theorem download_events_bracketed_sample :
    ∃ gateway history,
      Reaches {} history gateway ∧ (∀ exchange ∈ history, exchange.input ≠ .reset) ∧
        (∃ address size,
          (transferEvents history).getLast? = some (.transferStarted address size)) ∧
        (gateway.step (sampleRequest sampleBadBlock)).1.replies = [[0x7F, 0x36, 0x72]] := by
  let inputs := [sampleActivation, sampleRequest [0x34, 0x00, 0x11, 0x10, 0x40]]
  have reached : Reaches {} ((Gateway.ofConfig {}).history inputs)
      ((Gateway.ofConfig {}).run inputs).2 :=
    reaches_iff_run.mpr ⟨_, _, rfl, rfl, rfl⟩
  have noReset : ∀ exchange ∈ (Gateway.ofConfig {}).history inputs, exchange.input ≠ .reset := by
    simp [inputs, Gateway.exchange, sampleActivation, sampleRequest]
  have events : (((Gateway.ofConfig {}).run inputs).2.step (sampleRequest sampleBadBlock)).1.events =
      [.transferFailed (.download (.package (.wrongMagic 0)))] := by
    rfl
  obtain ⟨-, active, answered⟩ := download_events_bracketed reached noReset
  refine ⟨_, _, reached, noReset, active.mp rfl, ?_⟩
  exact answered _ _ 0x36 _ _ rfl (events ▸ List.mem_singleton.mpr rfl)

end DiagnosticGateway
