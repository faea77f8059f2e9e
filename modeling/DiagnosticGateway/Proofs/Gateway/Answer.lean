/-
Module: DiagnosticGateway.Proofs.Gateway.Answer
Purpose: What is sent and reported for each class of diagnostic messages.
Main exports:
  Frame.addressed, Gateway.reportsAsked, Gateway.AnswersTaken, Gateway.Answers,
  Gateway.Answers.deterministic, Gateway.answers_handleDiagnostic, diagnostic_messages_answered
-/
import DiagnosticGateway.Proofs.Gateway.Refusal

/-!
A diagnostic message falls into one of six classes, by the session, the two addresses, the first
byte of the service data and what becomes of the request.  `Gateway.Answers` gives the frames and
the events of each class.  A frame is written down by its payload type, the address it comes from, the
one it goes to and the bytes behind them; how the gateway puts it together is not looked at.
-/

namespace DiagnosticGateway

/-! ## The classes -/

/-- A frame whose payload is two addresses and what follows them. -/
def Frame.addressed (payloadType : PayloadType) (source target : UInt16) (content : Octets) :
    Frame :=
  { payloadType := payloadType
    payload := Octets.ofWord16 source ++ (Octets.ofWord16 target ++ content) }

/-- The report that a request asks for: the sending of a report is started. -/
def Gateway.reportsAsked (gateway : Gateway) (request : Octets) : List Frame :=
  if request.take 4 = [0x31, 0x01, 0xF0, 0x02] then
    [{ payloadType := .vciReport, payload := Report.encode gateway.vciRecords }]
  else if request.take 4 = [0x31, 0x01, 0xF0, 0x04] then
    [{ payloadType := .readinessReport, payload := Report.encode gateway.readinessRecords }]
  else []

/-- What follows the acknowledgement of a message that the gateway takes; `serve` says what becomes of
a request. -/
inductive Gateway.AnswersTaken (gateway : Gateway) (serve : UdsMessage → Served) (source : UInt16)
    (service : UInt8) (parameters : Octets) : GatewayOutput → Prop where
  /-- The message is a response to the host, and is passed on to it. -/
  | response {message : UdsMessage} (marked : service &&& 0x40 ≠ 0)
      (decoded : UdsMessage.decode (service :: parameters) = .ok message)
      (encoded : message.encode = service :: parameters) :
      AnswersTaken gateway serve source service parameters
        { events := [.responseReceived source message] }
  /-- The message is a request that is granted, and a report follows if it was asked for. -/
  | granted {message : UdsMessage} {data : Octets} (unmarked : service &&& 0x40 = 0)
      (offered : service ∈ [0x22, 0x31, 0x34, 0x36, 0x37])
      (decoded : UdsMessage.decode (service :: parameters) = .ok message)
      (answer : (serve message).answer = .ok data) :
      AnswersTaken gateway serve source service parameters
        { frames :=
            .addressed .diagnosticMessage gateway.config.localAddress source
                ((service + 0x40) :: data) ::
              gateway.reportsAsked (service :: parameters)
          events := (serve message).events }
  /-- The message is a request that is denied, for the reason that the code names. -/
  | denied {message : UdsMessage} {fault : GatewayFault} (unmarked : service &&& 0x40 = 0)
      (decoded : UdsMessage.decode (service :: parameters) = .ok message)
      (answer : (serve message).answer = .error fault) :
      AnswersTaken gateway serve source service parameters
        { frames :=
            [.addressed .diagnosticMessage gateway.config.localAddress source
              [0x7F, service, fault.code.code]]
          events := (serve message).events }

/-- The output for a diagnostic message. -/
inductive Gateway.Answers (gateway : Gateway) (serve : UdsMessage → Served)
    (source target : UInt16) (service : UInt8) (parameters : Octets) : GatewayOutput → Prop where
  /-- Routing is not active: the request is denied, whatever it is. -/
  | unrouted (inactive : gateway.routing.state ≠ .active) :
      Answers gateway serve source target service parameters
        { frames :=
            [.addressed .diagnosticMessage gateway.config.localAddress source
              [0x7F, service, 0x24]] }
  /-- The message is not from the active tester. -/
  | wrongSource (active : gateway.routing.state = .active)
      (stranger : gateway.routing.peer ≠ some source) :
      Answers gateway serve source target service parameters
        { frames :=
            [.addressed .diagnosticMessageNack gateway.config.localAddress source [0x02]] }
  /-- The message is meant for another address. -/
  | wrongTarget (active : gateway.routing.state = .active)
      (owner : gateway.routing.peer = some source)
      (elsewhere : target ≠ gateway.config.localAddress) :
      Answers gateway serve source target service parameters
        { frames :=
            [.addressed .diagnosticMessageNack gateway.config.localAddress source [0x03]] }
  /-- The active tester sends a message that is meant for the gateway.  It is acknowledged first, if the
  settings ask for that. -/
  | taken {rest : GatewayOutput} (active : gateway.routing.state = .active)
      (owner : gateway.routing.peer = some source)
      (addressed : target = gateway.config.localAddress)
      (answers : gateway.AnswersTaken serve source service parameters rest) :
      Answers gateway serve source target service parameters
        { frames :=
            (if gateway.config.framing.acknowledge then
                [.addressed .diagnosticMessageAck gateway.config.localAddress source [0x00]]
              else []) ++
              rest.frames
          events := rest.events }

section

variable {gateway noted : Gateway} {serve : UdsMessage → Served} {source target : UInt16}
  {service : UInt8} {parameters : Octets} {output first second : GatewayOutput}

/-! ### One output for each message -/

theorem Gateway.AnswersTaken.deterministic
    (one : gateway.AnswersTaken serve source service parameters first)
    (two : gateway.AnswersTaken serve source service parameters second) : first = second := by
  cases one with
  | response marked decoded =>
      cases two with
      | response _ again =>
          cases decoded.symm.trans again
          rfl
      | granted unmarked | denied unmarked => exact absurd unmarked marked
  | granted unmarked _ decoded answer =>
      cases two with
      | response marked => exact absurd unmarked marked
      | granted _ _ again answered =>
          cases decoded.symm.trans again
          cases answer.symm.trans answered
          rfl
      | denied _ again answered =>
          cases decoded.symm.trans again
          cases answer.symm.trans answered
  | denied unmarked decoded answer =>
      cases two with
      | response marked => exact absurd unmarked marked
      | granted _ _ again answered =>
          cases decoded.symm.trans again
          cases answer.symm.trans answered
      | denied _ again answered =>
          cases decoded.symm.trans again
          cases answer.symm.trans answered
          rfl

/-- The classes exclude each other, and each of them leaves nothing open. -/
theorem Gateway.Answers.deterministic
    (one : gateway.Answers serve source target service parameters first)
    (two : gateway.Answers serve source target service parameters second) : first = second := by
  cases one with
  | unrouted inactive =>
      cases two with
      | unrouted => rfl
      | wrongSource active | wrongTarget active | taken active => exact absurd active inactive
  | wrongSource active stranger =>
      cases two with
      | unrouted inactive => exact absurd active inactive
      | wrongSource => rfl
      | wrongTarget _ owner | taken _ owner => exact absurd owner stranger
  | wrongTarget active owner elsewhere =>
      cases two with
      | unrouted inactive => exact absurd active inactive
      | wrongSource _ stranger => exact absurd owner stranger
      | wrongTarget => rfl
      | taken _ _ addressed => exact absurd addressed elsewhere
  | taken active owner addressed answers =>
      cases two with
      | unrouted inactive => exact absurd active inactive
      | wrongSource _ stranger => exact absurd owner stranger
      | wrongTarget _ _ elsewhere => exact absurd addressed elsewhere
      | taken _ _ _ again =>
          cases answers.deterministic again
          rfl

/-! ### The sign of life -/

theorem Gateway.AnswersTaken.of_sameButTimes (times : SameButTimes gateway noted)
    (answers : noted.AnswersTaken serve source service parameters output) :
    gateway.AnswersTaken serve source service parameters output := by
  obtain ⟨lastActivity, pendingSince, rfl⟩ := times
  cases answers with
  | response marked decoded encoded => exact .response marked decoded encoded
  | granted unmarked offered decoded answer => exact .granted unmarked offered decoded answer
  | denied unmarked decoded answer => exact .denied unmarked decoded answer

/-- The times of a session do not matter for the answer, but for how a request is served. -/
theorem Gateway.Answers.of_sameButTimes (times : SameButTimes gateway noted)
    (answers : noted.Answers serve source target service parameters output) :
    gateway.Answers serve source target service parameters output := by
  have same := times
  obtain ⟨lastActivity, pendingSince, rfl⟩ := times
  cases answers with
  | unrouted inactive => exact .unrouted inactive
  | wrongSource active stranger => exact .wrongSource active stranger
  | wrongTarget active owner elsewhere => exact .wrongTarget active owner elsewhere
  | taken active owner addressed answers =>
      exact .taken active owner addressed (answers.of_sameButTimes same)

end

/-! ## Requests -/

/-- A request about a routine holds its sub-function and its identifier. -/
theorem UdsRequest.exists_routine {bytes : Octets} {message : UdsMessage} {request : UdsRequest}
    (decoded : UdsMessage.decode bytes = .ok message) (parsed : parse message = .ok request)
    (service : message.service = Service.routineControl) :
    ∃ subFunction code options,
      bytes = Service.routineControl :: subFunction :: (Octets.ofWord16 code ++ options) ∧
        request = .routineControl subFunction code options := by
  have bytesEq := UdsMessage.encode_of_decode decoded
  have other : ¬Service.routineControl = Service.readDataByIdentifier := by decide
  unfold parse at parsed
  rw [service, if_neg other, if_pos rfl] at parsed
  split at parsed
  · rename_i subFunction high low options subFunctionEq dataEq
    cases parsed
    refine ⟨subFunction, Octets.word16 high low, options, ?_, rfl⟩
    rw [← bytesEq, UdsMessage.encode, service, subFunctionEq, dataEq, Octets.ofWord16_word16]
    rfl
  · cases parsed
  · cases parsed

namespace Gateway

variable {gateway : Gateway}

/-- A request asks for a report exactly if it starts a routine that sends one. -/
theorem reportsAsked_of_routine {subFunction : UInt8} {code : UInt16} {routine : Routine}
    {action : RoutineAction} (known : Routine.ofCode? code = some routine)
    (defined : RoutineAction.ofCode? subFunction = some action) (options : Octets) :
    gateway.reportsAsked
        (Service.routineControl :: subFunction :: (Octets.ofWord16 code ++ options)) =
      if routine.role = .sendReport ∧ action = .start then [gateway.reportFrame routine.subject]
      else [] := by
  unfold Routine.ofCode? at known
  unfold RoutineAction.ofCode? at defined
  split at known <;> cases known <;> split at defined <;> cases defined <;> rfl

/-- A report is asked for with service, sub-function and identifier of a routine. -/
theorem reportsAsked_of_other {service : UInt8} (other : service ≠ Service.routineControl)
    (parameters : Octets) : gateway.reportsAsked (service :: parameters) = [] := by
  have different : service ≠ 0x31 := other
  simp [reportsAsked, different]

theorem followups_controlRoutine {subFunction : UInt8} {code : UInt16} {data : Octets}
    (granted : (gateway.controlRoutine subFunction code).answer = .ok data) (options : Octets) :
    (gateway.controlRoutine subFunction code).followups =
      gateway.reportsAsked
        (Service.routineControl :: subFunction :: (Octets.ofWord16 code ++ options)) := by
  unfold controlRoutine at granted ⊢
  cases known : Routine.ofCode? code with
  | none =>
      rw [known] at granted
      cases granted
  | some routine =>
      cases defined : RoutineAction.ofCode? subFunction with
      | none =>
          rw [known, defined] at granted
          cases granted
      | some action =>
          rw [reportsAsked_of_routine known defined]
          rw [known, defined] at granted
          obtain ⟨subject, role⟩ := routine
          -- Only the sending of a report depends on the state, and is followed by a frame.
          cases role with
          | collect => cases action <;> rfl
          | sendReport =>
              cases action with
              | stop => rfl
              | results => rfl
              | start =>
                  dsimp only at granted ⊢
                  split at granted
                  · rename_i collecting
                    rw [if_pos collecting]
                    rfl
                  · cases granted

/-- Nothing but the report that was asked for follows a positive response. -/
theorem followups_of_granted {service : UInt8} {parameters data : Octets} {message : UdsMessage}
    (decoded : UdsMessage.decode (service :: parameters) = .ok message)
    (granted : (gateway.serve message).answer = .ok data) :
    (gateway.serve message).followups = gateway.reportsAsked (service :: parameters) := by
  have named : service = message.service := Option.some.inj (UdsMessage.head?_of_decode decoded)
  by_cases routine : message.service = Service.routineControl
  · cases parsed : UdsRequest.parse message with
    | error fault =>
        simp only [serve, parsed, Served.refuse] at granted
        cases granted
    | ok request =>
        obtain ⟨subFunction, code, options, bytes, rfl⟩ :=
          UdsRequest.exists_routine decoded parsed routine
        simp only [serve, parsed, serveRequest] at granted ⊢
        rw [bytes]
        exact followups_controlRoutine granted options
  · rw [reportsAsked_of_other (named ▸ routine)]
    have effect := gateway.effect_serve message
    generalize gateway.serve message = served at effect
    cases effect with
    | refused | told | collected | programmed | failed => rfl
    | reported subject offered => exact absurd offered routine

/-- Nothing follows a negative response. -/
theorem followups_of_denied {service : UInt8} {served : Served} {fault : GatewayFault}
    (effect : Served.Effect gateway service served) (denied : served.answer = .error fault) :
    served.followups = [] := by
  cases effect with
  | refused | failed => rfl
  | told | reported | collected | programmed => cases denied

/-! ## Messages -/

/-- The acknowledgement stands in front of whatever a message is answered with. -/
theorem exists_answersTaken_handleUds (gateway : Gateway) (source : UInt16) {service : UInt8}
    {parameters : Octets} {message : UdsMessage}
    (decoded : UdsMessage.decode (service :: parameters) = .ok message) :
    ∃ rest, gateway.AnswersTaken gateway.serve source service parameters rest ∧
      (gateway.handleUds source message).1 =
        { frames := gateway.acknowledgementFrames source ++ rest.frames, events := rest.events } := by
  have named : service = message.service := Option.some.inj (UdsMessage.head?_of_decode decoded)
  unfold handleUds
  dsimp only
  cases marked : message.isResponse with
  | true =>
      have bit : service &&& 0x40 ≠ 0 := by
        rw [named]
        exact bne_iff_ne.mp marked
      refine ⟨_, .response bit decoded (UdsMessage.encode_of_decode decoded), ?_⟩
      rw [List.append_nil]
      rfl
  | false =>
      have bit : service &&& 0x40 = 0 := by
        rw [named]
        exact bne_eq_false_iff_eq.mp marked
      have effect := gateway.effect_serve message
      cases answer : (gateway.serve message).answer with
      | ok data =>
          have offered : service ∈ [0x22, 0x31, 0x34, 0x36, 0x37] :=
            named ▸ effect.offered_of_granted answer
          refine ⟨_, .granted bit offered decoded answer, ?_⟩
          simp only [Served.response, answer, followups_of_granted decoded answer, ← named]
          rfl
      | error fault =>
          refine ⟨_, .denied bit decoded answer, ?_⟩
          simp only [Served.response, answer, followups_of_denied effect answer, ← named]
          rfl

theorem answers_handleDiagnostic (gateway : Gateway) (source target : UInt16) (service : UInt8)
    (parameters : Octets) :
    gateway.Answers gateway.serve source target service parameters
      (gateway.handleDiagnostic
        { source := source, target := target, userData := service :: parameters }).1 := by
  unfold handleDiagnostic
  dsimp only
  by_cases active : gateway.routing.state = .active
  case neg =>
    have inactive : gateway.routing.isActive = false := by
      simp [Routing.isActive, active]
    rw [inactive]
    exact .unrouted active
  have isActive : gateway.routing.isActive = true := Routing.isActive_iff.mpr active
  rw [isActive]
  by_cases owner : gateway.routing.peer = some source
  case neg =>
    have stranger : gateway.routing.accepts source = false := by
      simp [Routing.accepts, owner]
    rw [stranger]
    exact .wrongSource active owner
  have accepted := Routing.accepts_iff.mpr ⟨isActive, owner⟩
  rw [accepted]
  by_cases addressed : target = gateway.localAddress
  case neg =>
    rw [if_pos addressed]
    exact .wrongTarget active owner addressed
  rw [if_neg (not_not_intro addressed)]
  obtain ⟨message, decoded⟩ := UdsMessage.exists_decode service parameters
  obtain ⟨rest, answers, output⟩ := gateway.exists_answersTaken_handleUds source decoded
  rw [decoded]
  show gateway.Answers _ _ _ _ _ (gateway.handleUds source message).1
  rw [output]
  exact .taken active owner addressed answers

end Gateway

/-- Every diagnostic message is answered exactly as its class says, whatever the gateway has come
to. -/
theorem diagnostic_messages_answered (gateway : Gateway) (frame : Frame) (now : Time)
    (kind : frame.payloadType = .diagnosticMessage) (whole : 5 ≤ frame.payload.length) :
    ∃ source target service parameters,
      frame.payload =
          Octets.ofWord16 source ++ (Octets.ofWord16 target ++ service :: parameters) ∧
        ∀ output, (gateway.step (.frame frame now)).1 = output ↔
          gateway.Answers (gateway.noteActivity now).serve source target service parameters
            output := by
  obtain ⟨source, target, service, parameters, payload, parsed⟩ :=
    DiagnosticMessage.exists_parse whole
  have answers : gateway.Answers (gateway.noteActivity now).serve source target service parameters
      (gateway.step (.frame frame now)).1 := by
    apply Gateway.Answers.of_sameButTimes (gateway.sameButTimes_noteActivity now)
    simp only [Gateway.step, Gateway.handleFrame, kind, Gateway.handlePayload, Gateway.orRefuse,
      parsed]
    exact (gateway.noteActivity now).answers_handleDiagnostic source target service parameters
  refine ⟨source, target, service, parameters, payload, fun output => ?_⟩
  constructor
  · rintro rfl
    exact answers
  · intro again
    exact answers.deterministic again

/-- The tester `0x0E00` starts the sending of the configuration report. -/
def sampleReportFrame : Frame :=
  DiagnosticMessage.toFrame
    { source := 0x0E00, target := 0x0100, userData := [0x31, 0x01, 0xF0, 0x02] }

/-- A gateway that the tester has told to start the collection. -/
def sampleCollector : Gateway :=
  ((Gateway.ofConfig {}).run [sampleActivation, sampleRequest [0x31, 0x01, 0xF0, 0x01]]).2

/-- An acknowledgement, a response and the report are sent.  The first two go from the gateway `0x0100`
to the tester `0x0E00`; the response counts one record. -/
theorem diagnostic_messages_answered_sample :
    (∃ source target service parameters,
      sampleReportFrame.payload =
          Octets.ofWord16 source ++ (Octets.ofWord16 target ++ service :: parameters) ∧
        ∀ output, (sampleCollector.step (.frame sampleReportFrame 0)).1 = output ↔
          sampleCollector.Answers (sampleCollector.noteActivity 0).serve source target service
            parameters output) ∧
      (sampleCollector.step (.frame sampleReportFrame 0)).1.frames.map Frame.payloadType =
        [.diagnosticMessageAck, .diagnosticMessage, .vciReport] ∧
      ((sampleCollector.step (.frame sampleReportFrame 0)).1.frames.take 2).map Frame.payload =
        [[0x01, 0x00, 0x0E, 0x00, 0x00],
          [0x01, 0x00, 0x0E, 0x00, 0x71, 0x01, 0xF0, 0x02, 0x00, 0x01]] := by
  have whole : 5 ≤ sampleReportFrame.payload.length := by decide
  refine ⟨diagnostic_messages_answered sampleCollector sampleReportFrame 0 rfl whole, rfl, ?_⟩
  decide +kernel

end DiagnosticGateway
