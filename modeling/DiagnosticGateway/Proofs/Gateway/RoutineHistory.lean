/-
Module: DiagnosticGateway.Proofs.Gateway.RoutineHistory
Purpose: Whether a report may be sent is decided by the routines that were asked for before.
Main exports:
  Routine.code, UdsRequest.command?, Exchange.command?, commands, Served.Obeys,
  Gateway.collecting_step, Reaches.collecting_eq, routines_follow_commands
-/
import DiagnosticGateway.Proofs.Gateway.Consolidation

/-!
A gateway sends a report on a subject only while the records for it are collected.  An observer need
not know whether they are: the requests that started or stopped a routine on the subject tell it, and
of these the last one.  The rule is read from the identifiers in the requests, and not from how the
gateway tells its routines apart.
-/

namespace DiagnosticGateway

/-! ## The rule -/

/-- The identifier of a routine. -/
def Routine.code : Routine → UInt16
  | { subject := .vci, role := .collect } => 0xF001
  | { subject := .vci, role := .sendReport } => 0xF002
  | { subject := .readiness, role := .collect } => 0xF003
  | { subject := .readiness, role := .sendReport } => 0xF004

/-- What a request commands for the collection on a subject: the start of the collecting routine
begins it, the stop of either routine ends it. -/
def UdsRequest.command? (subject : RoutineSubject) : UdsRequest → Option Bool
  | .routineControl subFunction code _ =>
      if subFunction = 0x01 ∧ code = Routine.code { subject := subject, role := .collect } then
        some true
      else if subFunction = 0x02 ∧
          (code = Routine.code { subject := subject, role := .collect } ∨
            code = Routine.code { subject := subject, role := .sendReport }) then
        some false
      else none
  | .readDataByIdentifier _ | .requestDownload _ _ _ | .transferData _ _ | .requestTransferExit _
  | .unsupported _ => none

/-- What an exchange commands for the collection on a subject, if a routine was granted in it. -/
def Exchange.command? (subject : RoutineSubject) (exchange : Exchange) : Option Bool :=
  match exchange.input.request? with
  | some { request, .. } =>
      if exchange.output.grants Service.routineControl then request.command? subject else none
  | none => none

/-- What was commanded for the collection on a subject in a history, in order. -/
def commands (subject : RoutineSubject) (history : List Exchange) : List Bool :=
  history.filterMap (Exchange.command? subject)

theorem commands_concat (subject : RoutineSubject) (history : List Exchange) (exchange : Exchange) :
    commands subject (history ++ [exchange]) =
      commands subject history ++ (exchange.command? subject).toList := by
  unfold commands
  rw [List.filterMap_append]
  cases command : exchange.command? subject <;> simp [command]

/-! ## Routines and their identifiers -/

theorem Routine.ofCode?_eq_some_iff {code : UInt16} {routine : Routine} :
    ofCode? code = some routine ↔ code = routine.code := by
  constructor
  · intro known
    unfold ofCode? at known
    split at known
    case h_5 => cases known
    all_goals
      obtain rfl := Option.some.inj known
      rfl
  · rintro rfl
    obtain ⟨subject, role⟩ := routine
    cases subject <;> cases role <;> rfl

/-- The sub-function of an action. -/
def RoutineAction.code : RoutineAction → UInt8
  | .start => 0x01
  | .stop => 0x02
  | .results => 0x03

theorem RoutineAction.ofCode?_eq_some_iff {code : UInt8} {action : RoutineAction} :
    ofCode? code = some action ↔ code = action.code := by
  constructor
  · intro known
    unfold ofCode? at known
    split at known
    case h_4 => cases known
    all_goals
      obtain rfl := Option.some.inj known
      rfl
  · rintro rfl
    cases action <;> rfl

/-- What an action on a routine commands for the collection on its subject. -/
def RoutineRole.command? : RoutineRole → RoutineAction → Option Bool
  | .collect, .start => some true
  | .collect, .stop | .sendReport, .stop => some false
  | .sendReport, .start | .collect, .results | .sendReport, .results => none

namespace UdsRequest

variable {subject : RoutineSubject} {subFunction : UInt8} {code : UInt16} {options : Octets}

theorem command?_of_codes (subject about : RoutineSubject) (role : RoutineRole)
    (action : RoutineAction) (options : Octets) :
    (routineControl action.code (Routine.code { subject := about, role := role }) options).command?
        subject =
      if about = subject then role.command? action else none := by
  cases about <;> cases role <;> cases action <;> cases subject <;> rfl

/-- What is no routine, or no action, commands nothing. -/
theorem command?_of_unknown
    (unknown : Routine.ofCode? code = none ∨ RoutineAction.ofCode? subFunction = none) :
    (routineControl subFunction code options).command? subject = none := by
  have known (role : RoutineRole) :
      Routine.ofCode? (Routine.code { subject := subject, role := role }) ≠ none := by
    rw [Routine.ofCode?_eq_some_iff.mpr rfl]
    exact Option.some_ne_none _
  simp only [command?]
  split
  · rename_i starts
    obtain ⟨rfl, rfl⟩ := starts
    exact absurd unknown (not_or.mpr ⟨known _, Option.some_ne_none _⟩)
  · split
    · rename_i stops
      obtain ⟨rfl, rfl | rfl⟩ := stops <;>
        exact absurd unknown (not_or.mpr ⟨known _, Option.some_ne_none _⟩)
    · rfl

theorem service_of_command? {request : UdsRequest} {flag : Bool}
    (commanded : request.command? subject = some flag) :
    request.service = Service.routineControl := by
  cases request with
  | routineControl => rfl
  | readDataByIdentifier | requestDownload | transferData | requestTransferExit | unsupported =>
      cases commanded

end UdsRequest

/-! ## Services -/

/-- A request is served as it commands for a subject: the collection is as commanded or, without a
command, as it was, and a command is granted. -/
structure Served.Obeys (gateway : Gateway) (subject : RoutineSubject) (command : Option Bool)
    (served : Served) : Prop where
  collecting : served.gateway.collecting subject = command.getD (gateway.collecting subject)
  granted : command ≠ none → ∃ data, served.answer = .ok data

theorem KeepsCollections.collecting {gateway next : Gateway} (kept : KeepsCollections gateway next)
    (subject : RoutineSubject) : next.collecting subject = gateway.collecting subject := by
  cases subject with
  | vci => exact kept.vci
  | readiness => exact kept.readiness

/-- Only routines start or end a collection. -/
theorem Served.Effect.keepsCollections {gateway : Gateway} {service : UInt8} {served : Served}
    (effect : Effect gateway service served) (other : service ≠ Service.routineControl) :
    KeepsCollections gateway served.gateway := by
  cases effect with
  | refused | told | reported | programmed | failed => exact ⟨rfl, rfl⟩
  | collected subject flag offered => exact absurd offered other

namespace Gateway

variable {gateway : Gateway} {subject : RoutineSubject}

theorem collecting_setCollecting (gateway : Gateway) (about subject : RoutineSubject)
    (flag : Bool) :
    (gateway.setCollecting about flag).collecting subject =
      if about = subject then flag else gateway.collecting subject := by
  cases about <;> cases subject <;> rfl

theorem obeys_of_kept {served : Served} (kept : KeepsCollections gateway served.gateway) :
    served.Obeys gateway subject none :=
  ⟨kept.collecting subject, fun commanded => absurd rfl commanded⟩

theorem obeys_of_set (about : RoutineSubject) (flag : Bool) {data : Octets}
    {events : List GatewayEvent} :
    Served.Obeys gateway subject (if about = subject then some flag else none)
      { gateway := gateway.setCollecting about flag, answer := .ok data, events := events } where
  collecting := by
    rw [collecting_setCollecting]
    split <;> rfl
  granted _ := ⟨data, rfl⟩

/-- Start, stop and results of the routines that there are; the rest is refused. -/
theorem obeys_controlRoutine (gateway : Gateway) (subject : RoutineSubject) (subFunction : UInt8)
    (code : UInt16) (options : Octets) :
    (gateway.controlRoutine subFunction code).Obeys gateway subject
      ((UdsRequest.routineControl subFunction code options).command? subject) := by
  cases routineEq : Routine.ofCode? code with
  | none =>
      rw [UdsRequest.command?_of_unknown (.inl routineEq), controlRoutine, routineEq]
      exact obeys_of_kept ⟨rfl, rfl⟩
  | some routine =>
      cases actionEq : RoutineAction.ofCode? subFunction with
      | none =>
          rw [UdsRequest.command?_of_unknown (.inr actionEq), controlRoutine, routineEq, actionEq]
          exact obeys_of_kept ⟨rfl, rfl⟩
      | some action =>
          rw [controlRoutine, routineEq, actionEq]
          obtain ⟨about, role⟩ := routine
          obtain rfl := Routine.ofCode?_eq_some_iff.mp routineEq
          obtain rfl := RoutineAction.ofCode?_eq_some_iff.mp actionEq
          rw [UdsRequest.command?_of_codes]
          cases role with
          | collect =>
              cases action with
              | start => exact obeys_of_set about true
              | stop => exact obeys_of_set about false
              | results =>
                  simp only [RoutineRole.command?, ite_self]
                  exact obeys_of_kept ⟨rfl, rfl⟩
          | sendReport =>
              cases action with
              | start =>
                  -- This is refused or granted, and in either case changes nothing.
                  simp only [RoutineRole.command?, ite_self]
                  split <;> exact obeys_of_kept ⟨rfl, rfl⟩
              | stop => exact obeys_of_set about false
              | results =>
                  simp only [RoutineRole.command?, ite_self]
                  exact obeys_of_kept ⟨rfl, rfl⟩

/-- Only routines have to do with collections. -/
theorem obeys_serveRequest (gateway : Gateway) (subject : RoutineSubject) (request : UdsRequest) :
    (gateway.serveRequest request).Obeys gateway subject (request.command? subject) := by
  cases request with
  | routineControl subFunction code options =>
      exact gateway.obeys_controlRoutine subject subFunction code options
  | readDataByIdentifier identifier =>
      exact obeys_of_kept ((gateway.effect_readData identifier).keepsCollections (by decide))
  | requestDownload dataFormat address size =>
      exact obeys_of_kept
        ((gateway.effect_requestDownload dataFormat address size).keepsCollections (by decide))
  | transferData counter block =>
      exact obeys_of_kept ((gateway.effect_transferData counter block).keepsCollections (by decide))
  | requestTransferExit parameters =>
      exact obeys_of_kept (gateway.effect_requestTransferExit.keepsCollections (by decide))
  | unsupported service => exact obeys_of_kept ⟨rfl, rfl⟩

/-- What an observer reads from an answer is what the request commands. -/
theorem command?_answer {input : GatewayInput} {addressed : AddressedRequest}
    (carried : input.request? = some addressed) (gateway : Gateway) (tester : UInt16)
    (subject : RoutineSubject) :
    Exchange.command? subject
        { input := input
          output := gateway.answer tester addressed.request.service
            (gateway.serveRequest addressed.request) } =
      addressed.request.command? subject := by
  unfold Exchange.command?
  simp only [carried]
  cases commanded : addressed.request.command? subject with
  | none => exact ite_self none
  | some flag =>
      have service := UdsRequest.service_of_command? commanded
      have obeys := gateway.obeys_serveRequest subject addressed.request
      rw [commanded] at obeys
      obtain ⟨data, granted⟩ := obeys.granted (Option.some_ne_none flag)
      have replies := (gateway.effect_serveRequest addressed.request).replies_answer tester
      rw [Served.response, granted] at replies
      have grants := GatewayOutput.grants_of_positive replies
      rw [service] at grants ⊢
      rw [if_pos grants]

end Gateway

/-! ## Frames -/

theorem Exchange.command?_of_ungranted {exchange : Exchange} (subject : RoutineSubject)
    (ungranted : exchange.output.grants Service.routineControl = false) :
    exchange.command? subject = none := by
  unfold command?
  split
  · rw [ungranted]
    rfl
  · rfl

/-- A negative response grants no routine. -/
theorem GatewayOutput.grants_routineControl_of_negative {output : GatewayOutput} {service : UInt8}
    {code : ResponseCode}
    (refused : output.replies = [Service.negativeResponseBytes service code]) :
    output.grants Service.routineControl = false :=
  grants_of_negative refused (by decide)

/-- After a frame the collection on a subject is as it was commanded, or as it was. -/
theorem FrameEffect.collecting {gateway next : Gateway} {frame : Frame} {now : Time}
    {output : GatewayOutput} (effect : FrameEffect gateway frame now output next)
    (subject : RoutineSubject) :
    next.collecting subject =
      (Exchange.command? subject { input := .frame frame now, output := output }).getD
        (gateway.collecting subject) := by
  have kept {other : Gateway} (collections : KeepsCollections gateway other)
      (ungranted : output.grants Service.routineControl = false) :
      other.collecting subject =
        (Exchange.command? subject { input := .frame frame now, output := output }).getD
          (gateway.collecting subject) := by
    rw [Exchange.command?_of_ungranted subject ungranted]
    exact collections.collecting subject
  cases effect with
  | refused | ignored | activated | takenOver | aliveAsked | aliveAnswered | vciReported
  | healthReported | readinessReported | wrongSource | wrongTarget =>
      exact kept ⟨rfl, rfl⟩ (GatewayOutput.grants_of_replies_nil rfl _)
  | unrouted =>
      exact kept ⟨rfl, rfl⟩
        (GatewayOutput.grants_routineControl_of_negative (gateway.replies_ofFrame_negative ..))
  | @responded message uds =>
      have silent := gateway.replies_acknowledgementFrames message.source
        [.responseReceived message.source uds]
      exact kept ⟨rfl, rfl⟩ (GatewayOutput.grants_of_replies_nil silent _)
  | @served message uds owner =>
      cases parsed : UdsRequest.parse uds with
      | ok request =>
          have served : gateway.serve uds = gateway.serveRequest request := by
            rw [Gateway.serve, parsed]
          have carried := (owner.asks parsed : Asks gateway (.frame frame now) _ _).carried
          rw [served, ← UdsRequest.service_of_parse parsed,
            Gateway.command?_answer carried gateway message.source subject]
          exact (gateway.obeys_serveRequest subject request).collecting
      | error fault =>
          have replies := (gateway.effect_serve uds).replies_answer message.source
          have served : gateway.serve uds = .refuse gateway (.uds fault) := by
            rw [Gateway.serve, parsed]
          rw [served] at replies
          refine kept ?_ ?_
          · rw [served]
            exact ⟨rfl, rfl⟩
          · rw [served]
            exact GatewayOutput.grants_routineControl_of_negative replies

/-! ## Inputs -/

namespace Gateway

/-- After an input that is no reset, the collection on a subject is as it was commanded, or as it
was. -/
theorem collecting_step (gateway : Gateway) (subject : RoutineSubject) {input : GatewayInput}
    (noReset : input ≠ .reset) :
    (gateway.step input).2.collecting subject =
      ((gateway.exchange input).command? subject).getD (gateway.collecting subject) := by
  cases input with
  | frame frame now =>
      have noted : (gateway.noteActivity now).collecting subject = gateway.collecting subject := by
        obtain ⟨lastActivity, pendingSince, notedEq⟩ := gateway.sameButTimes_noteActivity now
        rw [notedEq]
        cases subject <;> rfl
      rw [← noted]
      exact (gateway.frameEffect_handleFrame frame now).collecting subject
  | poll now => exact (gateway.keepsRecords_pollAliveCheck now).collecting subject
  | deactivate => exact gateway.keepsRecords_deactivate.collecting subject
  | reset => exact absurd rfl noReset

end Gateway

/-! ## Requests of the owner -/

theorem Gateway.controlRoutine_of_idle {gateway : Gateway} {code : UInt16} {subject : RoutineSubject}
    (known : Routine.ofCode? code = some { subject := subject, role := .sendReport })
    (idle : gateway.collecting subject = false) :
    gateway.controlRoutine 0x01 code =
      .refuse gateway (.refused Service.routineControl .requestSequenceError) := by
  have start : RoutineAction.ofCode? 0x01 = some .start := rfl
  unfold controlRoutine
  rw [known, start]
  exact if_neg (Bool.eq_false_iff.mp idle)

theorem Service.isResponseId_of_command? {subject : RoutineSubject} {request : UdsRequest}
    {flag : Bool} (commanded : request.command? subject = some flag) :
    isResponseId request.service = false := by
  rw [UdsRequest.service_of_command? commanded]
  exact isResponseId_routineControl

namespace Asks

variable {gateway : Gateway} {input : GatewayInput} {tester : UInt16} {subject : RoutineSubject}

/-- A command of the owner is granted, however the gateway stands. -/
theorem command?_exchange {request : UdsRequest} {flag : Bool}
    (asks : Asks gateway input tester request)
    (commanded : request.command? subject = some flag) :
    (gateway.exchange input).command? subject = some flag := by
  obtain ⟨now, stepEq⟩ := asks.step_eq (Service.isResponseId_of_command? commanded)
  rw [Gateway.exchange, stepEq, Gateway.command?_answer asks.carried]
  exact commanded

theorem replies_of_idle {options : Octets}
    (asks : Asks gateway input tester
      (.routineControl 0x01 (Routine.code { subject := subject, role := .sendReport }) options))
    (idle : gateway.collecting subject = false) :
    (gateway.step input).1.replies =
      [Service.negativeResponseBytes Service.routineControl .requestSequenceError] := by
  obtain ⟨now, replies⟩ := asks.replies_eq Service.isResponseId_routineControl
  have noted : { gateway with routing := gateway.routing.touch now }.collecting subject = false := by
    cases subject <;> exact idle
  rw [replies, Gateway.serveRequest,
    Gateway.controlRoutine_of_idle (Routine.ofCode?_eq_some_iff.mpr rfl) noted]
  rfl

/-- A report is sent to the owner if its records are collected, and refused otherwise. -/
theorem grants_sending_iff {options : Octets}
    (asks : Asks gateway input tester
      (.routineControl 0x01 (Routine.code { subject := subject, role := .sendReport }) options)) :
    (gateway.step input).1.grants Service.routineControl = true ↔
      gateway.collecting subject = true := by
  cases collecting : gateway.collecting subject with
  | true =>
      obtain ⟨replies, -⟩ :=
        asks.replies_of_sending (Routine.ofCode?_eq_some_iff.mpr rfl) collecting
      exact iff_of_true (GatewayOutput.grants_of_positive replies) rfl
  | false =>
      have replies := asks.replies_of_idle collecting
      have ungranted := GatewayOutput.grants_routineControl_of_negative replies
      exact iff_of_false (Bool.eq_false_iff.mp ungranted) Bool.false_ne_true

end Asks

/-! ## Runs -/

namespace Reaches

variable {config : GatewayConfig} {history : List Exchange} {gateway : Gateway}

/-- In a run without a reset, the last command decides whether records are collected. -/
theorem collecting_eq (reached : Reaches config history gateway)
    (noReset : ∀ exchange ∈ history, exchange.input ≠ .reset) (subject : RoutineSubject) :
    gateway.collecting subject = (commands subject history).getLastD false := by
  induction reached with
  | start started =>
      obtain ⟨-, rfl⟩ := Gateway.start?_eq_ok_iff.mp started
      cases subject <;> rfl
  | @step history gateway reached input inductionHypothesis =>
      have before := inductionHypothesis fun exchange member =>
        noReset exchange (List.mem_append_left _ member)
      have proceeds : input ≠ .reset :=
        noReset (gateway.exchange input) (List.mem_append_right _ (List.mem_singleton_self _))
      rw [gateway.collecting_step subject proceeds, commands_concat, before]
      cases (gateway.exchange input).command? subject with
      | none => rw [Option.toList_none, List.append_nil, Option.getD_none]
      | some flag => rw [Option.toList_some, List.getLastD_concat, Option.getD_some]

theorem collecting_iff (reached : Reaches config history gateway)
    (noReset : ∀ exchange ∈ history, exchange.input ≠ .reset) (subject : RoutineSubject) :
    gateway.collecting subject = true ↔ (commands subject history).getLast? = some true := by
  rw [reached.collecting_eq noReset subject, List.getLastD_eq_getLast?]
  cases (commands subject history).getLast? <;> simp

end Reaches

/-- In a run without a reset, the owner is sent a report on a subject exactly if the last command for
its collection was the start, and is otherwise told that the sequence is wrong.  A command of the
owner is granted whatever was before it.  Nothing else in the run counts: in two runs with the same
commands for a subject, the report is sent in both or in neither. -/
theorem routines_follow_commands {config : GatewayConfig} {history : List Exchange}
    {gateway : Gateway} (reached : Reaches config history gateway)
    (noReset : ∀ exchange ∈ history, exchange.input ≠ .reset) (subject : RoutineSubject) :
    let sending (options : Octets) : UdsRequest :=
      .routineControl 0x01 (Routine.code { subject := subject, role := .sendReport }) options
    (∀ input tester options, Asks gateway input tester (sending options) →
      ((gateway.step input).1.grants Service.routineControl = true ↔
          (commands subject history).getLast? = some true) ∧
        ((commands subject history).getLast? ≠ some true →
          (gateway.step input).1.replies = [[0x7F, 0x31, 0x24]])) ∧
      (∀ input tester request flag, Asks gateway input tester request →
        request.command? subject = some flag →
          (gateway.exchange input).command? subject = some flag) ∧
      ∀ otherConfig otherHistory other, Reaches otherConfig otherHistory other →
        (∀ exchange ∈ otherHistory, exchange.input ≠ .reset) →
        commands subject otherHistory = commands subject history →
          ∀ input tester options otherInput otherTester otherOptions,
            Asks gateway input tester (sending options) →
            Asks other otherInput otherTester (sending otherOptions) →
              (other.step otherInput).1.grants Service.routineControl =
                (gateway.step input).1.grants Service.routineControl := by
  intro sending
  refine ⟨?_, ?_, ?_⟩
  · intro input tester options asks
    have verdict := asks.grants_sending_iff.trans (reached.collecting_iff noReset subject)
    refine ⟨verdict, fun idle => ?_⟩
    exact asks.replies_of_idle
      (Bool.eq_false_iff.mpr (mt (reached.collecting_iff noReset subject).mp idle))
  · intro input tester request flag asks commanded
    exact asks.command?_exchange commanded
  · intro otherConfig otherHistory other otherReached otherNoReset same input tester options
      otherInput otherTester otherOptions asks otherAsks
    rw [Bool.eq_iff_iff, asks.grants_sending_iff, otherAsks.grants_sending_iff,
      reached.collecting_iff noReset subject, otherReached.collecting_iff otherNoReset subject, same]

/-- The readiness check is started and stopped by its sending routine while the collection of
configuration records is on and the session is ended and begun again. -/
def sampleRoutines : List GatewayInput :=
  [sampleActivation, sampleRequest [0x31, 0x01, 0xF0, 0x01], sampleRequest [0x31, 0x01, 0xF0, 0x03],
    sampleRequest [0x31, 0x02, 0xF0, 0x04], .deactivate, sampleActivation]

theorem routines_follow_commands_sample :
    let gateway := ((Gateway.ofConfig {}).run sampleRoutines).2
    let history := (Gateway.ofConfig {}).history sampleRoutines
    Reaches {} history gateway ∧ (∀ exchange ∈ history, exchange.input ≠ .reset) ∧
      commands .vci history = [true] ∧ commands .readiness history = [true, false] ∧
      (gateway.step (sampleRequest [0x31, 0x01, 0xF0, 0x02])).1.grants
        Service.routineControl = true ∧
      (gateway.step (sampleRequest [0x31, 0x01, 0xF0, 0x04])).1.replies = [[0x7F, 0x31, 0x24]] := by
  intro gateway history
  have reached : Reaches {} history gateway := reaches_iff_run.mpr ⟨_, _, rfl, rfl, rfl⟩
  have noReset : ∀ exchange ∈ history, exchange.input ≠ .reset := by
    intro exchange member
    simp only [history, sampleRoutines, Gateway.history_cons, Gateway.history_nil, List.mem_cons,
      List.not_mem_nil, or_false] at member
    rcases member with rfl | rfl | rfl | rfl | rfl | rfl <;> exact nofun
  have vci : commands .vci history = [true] := by decide
  have readiness : commands .readiness history = [true, false] := by decide
  have sendsVci : Asks gateway (sampleRequest [0x31, 0x01, 0xF0, 0x02]) 0x0E00
      (.routineControl 0x01 0xF002 []) := ⟨by decide, by decide⟩
  have sendsReadiness : Asks gateway (sampleRequest [0x31, 0x01, 0xF0, 0x04]) 0x0E00
      (.routineControl 0x01 0xF004 []) := ⟨by decide, by decide⟩
  obtain ⟨sentVci, -, -⟩ := routines_follow_commands reached noReset .vci
  obtain ⟨sentReadiness, -, -⟩ := routines_follow_commands reached noReset .readiness
  have granted := (sentVci _ _ _ sendsVci).1.mpr (by rw [vci]; rfl)
  have refused := (sentReadiness _ _ _ sendsReadiness).2 (by rw [readiness]; decide)
  exact ⟨reached, noReset, vci, readiness, granted, refused⟩

end DiagnosticGateway
