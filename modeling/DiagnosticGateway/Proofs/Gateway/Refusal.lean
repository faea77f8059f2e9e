/-
Module: DiagnosticGateway.Proofs.Gateway.Refusal
Purpose: What is refused leaves no trace.
Main exports:
  GatewayOutput.Denies, frame_refusals_atomic
-/
import DiagnosticGateway.Proofs.Gateway.Authority

/-!
A gateway says no in three ways: it refuses a frame, it refuses a diagnostic message, and it denies a
request in its response.  The reason can turn up early, while a payload is read, or late, after a
block has been appended to a download.  Either nothing was changed before, or the download is given
up, and then that is reported.
-/

namespace DiagnosticGateway

/-- A request is denied: a negative response is sent. -/
def GatewayOutput.Denies (output : GatewayOutput) : Prop :=
  ∃ reply ∈ output.replies, reply.head? = some Service.negativeResponse

/-- An output without diagnostic messages denies nothing. -/
theorem GatewayOutput.not_denies_of_replies_nil {output : GatewayOutput}
    (silent : output.replies = []) : ¬output.Denies := by
  rintro ⟨reply, member, -⟩
  rw [silent] at member
  cases member

/-! ## Services -/

/-- A positive response to a service that is offered cannot be taken for a negative one. -/
theorem Service.head?_positiveResponse {service : UInt8} {data : Octets}
    (member : service ∈ offered) :
    (positiveResponse service data).head? ≠ some negativeResponse := by
  intro negative
  have same : responseId service = negativeResponse := Option.some.inj negative
  rcases mem_offered_iff.mp member with rfl | rfl | rfl | rfl | rfl <;>
    exact absurd same (by decide)

namespace Served.Effect

variable {gateway : Gateway} {service : UInt8} {served : Served}

/-- Only reports follow a response. -/
theorem reports_followups (effect : Effect gateway service served) :
    ∀ frame ∈ served.followups, ∃ subject, frame = gateway.reportFrame subject := by
  intro frame member
  cases effect with
  | refused | told | collected | programmed | failed => cases member
  | reported subject => exact ⟨subject, List.mem_singleton.mp member⟩

/-- The only reply to a request is the response to it. -/
theorem replies_answer (effect : Effect gateway service served) (tester : UInt16) :
    (gateway.answer tester service served).replies = [served.response service] := by
  apply gateway.replies_answer
  intro frame member
  obtain ⟨subject, rfl⟩ := effect.reports_followups frame member
  exact gateway.serviceData?_reportFrame subject

/-- Only the services that are offered are answered with data. -/
theorem offered_of_granted {data : Octets} (effect : Effect gateway service served)
    (granted : served.answer = .ok data) : service ∈ Service.offered := by
  cases effect with
  | refused | failed => cases granted
  | told offered => rcases offered with rfl | rfl <;> decide
  | reported subject offered => exact offered ▸ by decide
  | collected subject flag offered => exact offered ▸ by decide
  | programmed download inspected offered =>
      exact List.mem_cons_of_mem _ (List.mem_cons_of_mem _ offered)

/-- A request is denied by a refusal that changes nothing, or with the download given up. -/
theorem of_denied (effect : Effect gateway service served)
    (denied : (served.response service).head? = some Service.negativeResponse) :
    (∃ fault, served = .refuse gateway fault) ∨
      ∃ (download : Download) (fault : GatewayFault), served =
        { gateway := { gateway with download := download.abort, inspected := none }
          answer := .error fault
          events := [.transferFailed fault] } := by
  -- Data can only be given for a service whose positive response does not look like a denial.
  cases answerEq : served.answer with
  | ok data =>
      rw [Served.response, answerEq] at denied
      exact absurd denied (Service.head?_positiveResponse (effect.offered_of_granted answerEq))
  | error fault =>
      cases effect with
      | refused fault => exact .inl ⟨fault, rfl⟩
      | told | reported | collected | programmed => cases answerEq
      | failed download fault => exact .inr ⟨download, fault, rfl⟩

end Served.Effect

/-! ## Frames -/

/-- An acknowledgement is a positive one. -/
theorem Gateway.payloadType_of_mem_acknowledgementFrames {gateway : Gateway} {tester : UInt16}
    {frame : Frame} (member : frame ∈ gateway.acknowledgementFrames tester) :
    frame.payloadType = .diagnosticMessageAck := by
  unfold acknowledgementFrames at member
  split at member
  · rw [List.mem_singleton.mp member]
    rfl
  · cases member

/-- A served request is answered, and no refusal of a frame goes with the answer. -/
theorem Served.Effect.payloadType_of_mem_answer {gateway : Gateway} {service : UInt8}
    {served : Served} {tester : UInt16} {frame : Frame} (effect : Effect gateway service served)
    (member : frame ∈ (gateway.answer tester service served).frames) :
    ¬(frame.payloadType = .genericNack ∨ frame.payloadType = .diagnosticMessageNack) := by
  rcases List.mem_append.mp member with acknowledgement | rest
  · simp [Gateway.payloadType_of_mem_acknowledgementFrames acknowledgement]
  · rcases List.mem_cons.mp rest with rfl | followup
    · simp [Gateway.diagnosticFrame, DiagnosticMessage.toFrame, Frame.ofPayload]
    · obtain ⟨subject, rfl⟩ := effect.reports_followups frame followup
      cases subject <;> simp [Gateway.reportFrame, Frame.ofPayload]

namespace FrameEffect

variable {gateway next : Gateway} {frame : Frame} {now : Time} {output : GatewayOutput}

/-- A frame or a diagnostic message that is refused has no other effect. -/
theorem of_refusal {refusal : Frame} (effect : FrameEffect gateway frame now output next)
    (member : refusal ∈ output.frames)
    (refuses : refusal.payloadType = .genericNack ∨
      refusal.payloadType = .diagnosticMessageNack) :
    output.frames = [refusal] ∧ output.events = [] ∧ next = gateway := by
  cases effect with
  | refused | wrongSource | wrongTarget =>
      rw [List.mem_singleton.mp member]
      exact ⟨rfl, rfl, rfl⟩
  | ignored | aliveAnswered | vciReported | healthReported | readinessReported => cases member
  | activated | takenOver | aliveAsked | unrouted =>
      rw [List.mem_singleton.mp member] at refuses
      rcases refuses with impossible | impossible <;> cases impossible
  | responded =>
      rw [Gateway.payloadType_of_mem_acknowledgementFrames member] at refuses
      rcases refuses with impossible | impossible <;> cases impossible
  | served => exact absurd refuses ((gateway.effect_serve _).payloadType_of_mem_answer member)

/-- A request that is denied has no other effect, or the download is given up. -/
theorem of_denied (effect : FrameEffect gateway frame now output next)
    (denied : output.Denies) :
    (output.events = [] ∧ next = gateway) ∨
      ∃ (download : Download) (fault : GatewayFault), output.events = [.transferFailed fault] ∧
        next = { gateway with download := download.abort, inspected := none } := by
  cases effect with
  | refused | ignored | activated | takenOver | aliveAsked | aliveAnswered | vciReported
  | healthReported | readinessReported | wrongSource | wrongTarget =>
      exact absurd denied (GatewayOutput.not_denies_of_replies_nil rfl)
  | unrouted => exact .inl ⟨rfl, rfl⟩
  | @responded message uds =>
      have silent := gateway.replies_acknowledgementFrames message.source
        [.responseReceived message.source uds]
      exact absurd denied (GatewayOutput.not_denies_of_replies_nil silent)
  | @served message uds =>
      have effect := gateway.effect_serve uds
      obtain ⟨reply, member, negative⟩ := denied
      rw [effect.replies_answer, List.mem_singleton] at member
      rw [member] at negative
      unfold Gateway.answer
      rcases effect.of_denied negative with ⟨fault, refused⟩ | ⟨download, fault, failed⟩
      · rw [refused]
        exact .inl ⟨rfl, rfl⟩
      · rw [failed]
        exact .inr ⟨download, fault, rfl, rfl⟩

end FrameEffect

/-- A generic refusal is all that comes of a frame.  A refused diagnostic message, and a denied
request that does not fail the download, changes nothing either and reports nothing; the times of the
session are apart from this.  A denied request that fails the download leaves it failed and empty, and
nothing else changes. -/
theorem frame_refusals_atomic (gateway : Gateway) (frame : Frame) (now : Time) :
    let output := (gateway.step (.frame frame now)).1
    let next := (gateway.step (.frame frame now)).2
    (∀ refusal ∈ output.frames, refusal.payloadType = .genericNack →
      output.frames = [refusal] ∧ output.events = [] ∧ SameButTimes gateway next) ∧
    ((∃ refusal ∈ output.frames, refusal.payloadType = .diagnosticMessageNack) ∨
        (output.Denies ∧ ∀ fault, .transferFailed fault ∉ output.events) →
      output.events = [] ∧ SameButTimes gateway next) ∧
    (∀ fault, output.Denies → .transferFailed fault ∈ output.events →
      next.download.state = .failed ∧ next.download.received = [] ∧ next.inspected = none ∧
        KeepsCollections gateway next ∧ next.telemetry = gateway.telemetry ∧
        SameSession gateway next) := by
  intro output next
  have effect : FrameEffect (gateway.noteActivity now) frame now output next :=
    gateway.frameEffect_handleFrame frame now
  have noted := gateway.sameButTimes_noteActivity now
  refine ⟨?_, ?_, ?_⟩
  · intro refusal member refuses
    obtain ⟨frames, events, same⟩ := effect.of_refusal member (.inl refuses)
    exact ⟨frames, events, same ▸ noted⟩
  · rintro (⟨refusal, member, refuses⟩ | ⟨denied, unfailed⟩)
    · obtain ⟨-, events, same⟩ := effect.of_refusal member (.inr refuses)
      exact ⟨events, same ▸ noted⟩
    · rcases effect.of_denied denied with ⟨events, same⟩ | ⟨download, fault, failed, -⟩
      · exact ⟨events, same ▸ noted⟩
      · exact absurd (failed ▸ List.mem_singleton.mpr rfl) (unfailed fault)
  · intro fault denied failed
    rcases effect.of_denied denied with ⟨events, -⟩ | ⟨download, reason, -, same⟩
    · rw [events] at failed
      cases failed
    · obtain ⟨lastActivity, pendingSince, notedEq⟩ := noted
      rw [same, notedEq]
      exact ⟨rfl, rfl, rfl, ⟨rfl, rfl⟩, rfl, ⟨rfl, rfl, rfl⟩⟩

/-- A block that holds a header of zeros. -/
def sampleBadBlockFrame : Frame :=
  DiagnosticMessage.toFrame
    { source := 0x0E00, target := 0x0100, userData := 0x36 :: 0x01 :: List.replicate 64 0x00 }

/-- A block with a header of zeros fails the download. -/
theorem frame_refusals_atomic_sample :
    ∃ history gateway, Reaches {} history gateway ∧
      gateway.download.state = .downloading ∧
      (gateway.step (.frame sampleBadBlockFrame 0)).1.Denies ∧
      (gateway.step (.frame sampleBadBlockFrame 0)).2.download.state = .failed ∧
      SameSession gateway (gateway.step (.frame sampleBadBlockFrame 0)).2 := by
  let inputs := [sampleActivation, sampleRequest [0x34, 0x00, 0x11, 0x10, 0x40]]
  have reached : Reaches {} ((Gateway.ofConfig {}).history inputs)
      ((Gateway.ofConfig {}).run inputs).2 :=
    reaches_iff_run.mpr ⟨_, _, rfl, rfl, rfl⟩
  have replies : (((Gateway.ofConfig {}).run inputs).2.step
      (.frame sampleBadBlockFrame 0)).1.replies = [[0x7F, 0x36, 0x72]] := by
    rfl
  have events : (((Gateway.ofConfig {}).run inputs).2.step
      (.frame sampleBadBlockFrame 0)).1.events =
        [.transferFailed (.download (.package (.wrongMagic 0)))] := by
    rfl
  have denied : (((Gateway.ofConfig {}).run inputs).2.step
      (.frame sampleBadBlockFrame 0)).1.Denies :=
    ⟨_, replies ▸ List.mem_singleton.mpr rfl, rfl⟩
  obtain ⟨-, -, givenUp⟩ :=
    frame_refusals_atomic ((Gateway.ofConfig {}).run inputs).2 sampleBadBlockFrame 0
  obtain ⟨failed, -, -, -, -, session⟩ :=
    givenUp _ denied (events ▸ List.mem_singleton.mpr rfl)
  exact ⟨_, _, reached, rfl, denied, failed, session⟩

end DiagnosticGateway
