/-
Module: DiagnosticGateway.Proofs.Gateway.Exchange
Purpose: What an observer of a gateway sees, and the histories that a connection can have.
Main exports:
  Frame.serviceData?, AddressedRequest, GatewayInput.request?, GatewayOutput.replies,
  GatewayOutput.grants, GatewayOutput.transferEvents, Exchange, Reaches, reaches_iff_run
-/
import DiagnosticGateway.Gateway.Run
import DiagnosticGateway.Proofs.Payload.Codec
import DiagnosticGateway.Proofs.Uds.Request

/-!
An observer sees the inputs of a gateway and its outputs, and nothing of its state.  The request in
an input and the replies in an output are read from the bytes of the frames; which requests were
granted, and by whom they were made, are therefore facts about a history and not about the gateway.
-/

namespace DiagnosticGateway

/-! ## Inputs -/

/-- The diagnostic message that a frame carries, if it carries one. -/
def Frame.diagnostic? (frame : Frame) : Option DiagnosticMessage :=
  if frame.payloadType = .diagnosticMessage then (DiagnosticMessage.parse frame.payload).toOption
  else none

/-- The service data that a frame carries, if it carries a diagnostic message. -/
def Frame.serviceData? (frame : Frame) : Option Octets :=
  frame.diagnostic?.map DiagnosticMessage.userData

/-- A request with its sender and the logical address that it is meant for. -/
structure AddressedRequest where
  source : UInt16
  target : UInt16
  request : UdsRequest
deriving DecidableEq

/-- The request in a diagnostic message, if its service data is one. -/
def DiagnosticMessage.request? (message : DiagnosticMessage) : Option AddressedRequest := do
  let uds ← (UdsMessage.decode message.userData).toOption
  let request ← (UdsRequest.parse uds).toOption
  pure { source := message.source, target := message.target, request := request }

/-- The request in an input, if it is a frame that carries one. -/
def GatewayInput.request? : GatewayInput → Option AddressedRequest
  | .frame received _ => received.diagnostic?.bind DiagnosticMessage.request?
  | .poll _ | .deactivate | .reset => none

/-! ## Outputs -/

namespace GatewayOutput

/-- The service data of the diagnostic messages that are sent, in order. -/
def replies (output : GatewayOutput) : List Octets :=
  output.frames.filterMap Frame.serviceData?

/-- Whether a positive response to a service is sent. -/
def grants (output : GatewayOutput) (service : UInt8) : Bool :=
  output.replies.any fun reply => reply.head? == some (Service.responseId service)

end GatewayOutput

/-- Whether an event opens or ends a download. -/
def GatewayEvent.isTransfer : GatewayEvent → Bool
  | .transferStarted _ _ | .transferCompleted _ _ | .transferFailed _ => true
  | .routingActivated _ _ | .routingExpired _ | .routingDeactivated | .aliveCheckAnswered _
  | .vciReported _ | .healthReported _ | .readinessReported _ | .responseReceived _ _
  | .routineStarted _ => false

/-- The events of an output that open or end a download, in order. -/
def GatewayOutput.transferEvents (output : GatewayOutput) : List GatewayEvent :=
  output.events.filter GatewayEvent.isTransfer

theorem Service.forall_programming {property : UInt8 → Prop} :
    (∀ service ∈ programming, property service) ↔
      property requestDownload ∧ property transferData ∧ property requestTransferExit := by
  simp [programming]

/-! ## Reading what was sent -/

theorem Frame.diagnostic?_eq_some_iff {frame : Frame} {message : DiagnosticMessage} :
    frame.diagnostic? = some message ↔
      frame.payloadType = .diagnosticMessage ∧
        DiagnosticMessage.parse frame.payload = .ok message := by
  unfold diagnostic?
  by_cases diagnostic : frame.payloadType = .diagnosticMessage
  · cases DiagnosticMessage.parse frame.payload <;> simp [diagnostic, Except.toOption]
  · simp [diagnostic]

theorem DiagnosticMessage.request?_eq_some_iff {message : DiagnosticMessage}
    {addressed : AddressedRequest} :
    message.request? = some addressed ↔
      ∃ uds, UdsMessage.decode message.userData = .ok uds ∧
        UdsRequest.parse uds = .ok addressed.request ∧
        message.source = addressed.source ∧ message.target = addressed.target := by
  unfold request?
  cases decoded : UdsMessage.decode message.userData with
  | error fault => simp [Except.toOption]
  | ok uds =>
      cases parsed : UdsRequest.parse uds with
      | error fault => simp [Except.toOption, parsed]
      | ok request =>
          obtain ⟨source, target, other⟩ := addressed
          simp only [Except.toOption, parsed, bind, pure, Option.bind_some, Option.some.injEq,
            AddressedRequest.mk.injEq, Except.ok.injEq, exists_eq_left']
          constructor
          · rintro ⟨sourceEq, targetEq, requestEq⟩
            exact ⟨requestEq, sourceEq, targetEq⟩
          · rintro ⟨requestEq, sourceEq, targetEq⟩
            exact ⟨sourceEq, targetEq, requestEq⟩

/-! ## Reading back what the gateway writes -/

/-- A frame of another type carries no service data. -/
theorem Frame.serviceData?_eq_none {frame : Frame}
    (other : frame.payloadType ≠ .diagnosticMessage) : frame.serviceData? = none := by
  simp [serviceData?, diagnostic?, other]

@[simp] theorem Gateway.serviceData?_diagnosticFrame (gateway : Gateway) (target : UInt16)
    (first : UInt8) (rest : Octets) :
    (gateway.diagnosticFrame target (first :: rest)).serviceData? = some (first :: rest) := by
  simp [Gateway.diagnosticFrame, DiagnosticMessage.toFrame, Frame.ofPayload, Frame.serviceData?,
    Frame.diagnostic?, DiagnosticMessage.parse_toOctets, Except.toOption]

/-! ## Histories -/

/-- An input and the output that it led to. -/
structure Exchange where
  input : GatewayInput
  output : GatewayOutput

namespace Gateway

/-- What an observer sees when a gateway takes an input. -/
def exchange (gateway : Gateway) (input : GatewayInput) : Exchange :=
  { input := input, output := (gateway.step input).1 }

/-- What an observer sees of a run. -/
def history (gateway : Gateway) (inputs : List GatewayInput) : List Exchange :=
  List.zipWith Exchange.mk inputs (gateway.run inputs).1

@[simp] theorem history_nil (gateway : Gateway) : gateway.history [] = [] := rfl

@[simp] theorem history_cons (gateway : Gateway) (input : GatewayInput)
    (inputs : List GatewayInput) :
    gateway.history (input :: inputs) =
      gateway.exchange input :: (gateway.step input).2.history inputs := rfl

theorem run_append (gateway : Gateway) (front back : List GatewayInput) :
    gateway.run (front ++ back) =
      ((gateway.run front).1 ++ ((gateway.run front).2.run back).1,
        ((gateway.run front).2.run back).2) := by
  induction front generalizing gateway with
  | nil => rfl
  | cons input front inductionHypothesis =>
      simp only [List.cons_append, run, inductionHypothesis]

@[simp] theorem length_run (gateway : Gateway) (inputs : List GatewayInput) :
    (gateway.run inputs).1.length = inputs.length := by
  induction inputs generalizing gateway with
  | nil => rfl
  | cons input inputs inductionHypothesis =>
      simp only [run, List.length_cons, inductionHypothesis]

theorem history_append (gateway : Gateway) (front back : List GatewayInput) :
    gateway.history (front ++ back) =
      gateway.history front ++ (gateway.run front).2.history back := by
  simp only [history, run_append]
  exact List.zipWith_append (length_run gateway front).symm

end Gateway

/-- A connection that was set up with valid settings can come to a gateway, and an observer has then
seen a history. -/
inductive Reaches (config : GatewayConfig) : List Exchange → Gateway → Prop where
  | start {gateway : Gateway} (started : Gateway.start? config = .ok gateway) :
      Reaches config [] gateway
  | step {history : List Exchange} {gateway : Gateway} (reached : Reaches config history gateway)
      (input : GatewayInput) :
      Reaches config (history ++ [gateway.exchange input]) (gateway.step input).2

/-- Exactly the runs from a fresh gateway lead anywhere. -/
theorem reaches_iff_run {config : GatewayConfig} {history : List Exchange} {gateway : Gateway} :
    Reaches config history gateway ↔
      ∃ start inputs, Gateway.start? config = .ok start ∧ history = start.history inputs ∧
        gateway = (start.run inputs).2 := by
  constructor
  · intro reached
    induction reached with
    | start started => exact ⟨_, [], started, rfl, rfl⟩
    | step reached input inductionHypothesis =>
        obtain ⟨start, inputs, started, rfl, rfl⟩ := inductionHypothesis
        refine ⟨start, inputs ++ [input], started, ?_, ?_⟩
        · rw [Gateway.history_append]
          rfl
        · rw [Gateway.run_append]
          rfl
  · rintro ⟨start, inputs, started, rfl, rfl⟩
    suffices general : ∀ (inputs : List GatewayInput) (history : List Exchange) (gateway : Gateway),
        Reaches config history gateway →
          Reaches config (history ++ gateway.history inputs) (gateway.run inputs).2 by
      exact general inputs [] start (.start started)
    intro inputs
    induction inputs with
    | nil =>
        intro history gateway reached
        rw [Gateway.history_nil, List.append_nil]
        exact reached
    | cons input inputs inductionHypothesis =>
        intro history gateway reached
        have next := inductionHypothesis _ _ (reached.step input)
        rwa [List.append_assoc] at next

/-- A gateway that was started has the state of a beginning, and its settings are valid. -/
theorem Gateway.start?_eq_ok_iff {config : GatewayConfig} {gateway : Gateway} :
    Gateway.start? config = .ok gateway ↔ config.Valid ∧ gateway = Gateway.ofConfig config := by
  unfold Gateway.start? GatewayConfig.Valid
  cases config.validate with
  | ok => exact ⟨fun equality => ⟨rfl, (Except.ok.inj equality).symm⟩, fun both => both.2 ▸ rfl⟩
  | error fault =>
      constructor
      · intro equality
        cases equality
      · rintro ⟨valid, -⟩
        cases valid

/-! ## Sample inputs -/

/-- The tester `0x0E00` activates routing. -/
def sampleActivation : GatewayInput :=
  .frame (ActivationRequest.toFrame { source := 0x0E00, activationType := 0 }) 0

/-- The tester `0x0E00` sends service data to a gateway at the default address. -/
def sampleRequest (userData : Octets) : GatewayInput :=
  .frame (DiagnosticMessage.toFrame { source := 0x0E00, target := 0x0100, userData := userData }) 0

end DiagnosticGateway
