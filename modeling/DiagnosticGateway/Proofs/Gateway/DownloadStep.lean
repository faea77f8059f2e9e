/-
Module: DiagnosticGateway.Proofs.Gateway.DownloadStep
Purpose: Everything that one input can do to the download of a gateway.
Main exports:
  SameSession, Served.LeavesDownload, DownloadStep, downloadStep_step
-/
import DiagnosticGateway.Proofs.Gateway.FrameEffect

/-!
`DownloadStep` lists what an input can do to a download, together with what the output then shows.
Requests that are refused, and all that has nothing to do with downloads, are its first case.
`downloadStep_step` says that the list is complete; what holds of downloads over whole histories is
derived from the list and does not look at the services again.
-/

namespace DiagnosticGateway

/-! ## Replies to a request -/

namespace Service

@[simp] theorem responseId_inj {first second : UInt8} :
    responseId first = responseId second ↔ first = second := by
  unfold responseId
  constructor
  · intro equality
    have restored := congrArg (· - responseOffset) equality
    simpa using restored
  · rintro rfl
    rfl

end Service

namespace GatewayOutput

/-- An output without diagnostic messages grants nothing. -/
theorem grants_of_replies_nil {output : GatewayOutput} (silent : output.replies = [])
    (service : UInt8) : output.grants service = false := by
  simp [grants, silent]

/-- A negative response grants no service whose positive response looks otherwise. -/
theorem grants_of_negative {output : GatewayOutput} {service asked : UInt8} {code : ResponseCode}
    (refused : output.replies = [Service.negativeResponseBytes service code])
    (unlike : Service.responseId asked ≠ Service.negativeResponse) :
    output.grants asked = false := by
  simp [grants, refused, Service.negativeResponseBytes, unlike.symm]

/-- No programming service is granted. -/
def Ungranted (output : GatewayOutput) : Prop :=
  ∀ service ∈ Service.programming, output.grants service = false

theorem ungranted_of_replies_nil {output : GatewayOutput} (silent : output.replies = []) :
    output.Ungranted := fun service _ =>
  grants_of_replies_nil silent service

theorem ungranted_of_negative {output : GatewayOutput} {service : UInt8} {code : ResponseCode}
    (refused : output.replies = [Service.negativeResponseBytes service code]) :
    output.Ungranted := by
  have unlike : ∀ asked ∈ Service.programming,
      Service.responseId asked ≠ Service.negativeResponse :=
    Service.forall_programming.mpr (by decide)
  intro asked member
  exact grants_of_negative refused (unlike asked member)

theorem ungranted_of_positive {output : GatewayOutput} {service : UInt8} {data : Octets}
    (granted : output.replies = [Service.positiveResponse service data])
    (other : service ∉ Service.programming) : output.Ungranted := by
  intro programming member
  have different : service ≠ programming := by
    rintro rfl
    exact other member
  simp [grants, granted, Service.positiveResponse, different]

/-- A positive response is a grant. -/
theorem grants_of_positive {output : GatewayOutput} {service : UInt8} {data : Octets}
    (granted : output.replies = [Service.positiveResponse service data]) :
    output.grants service = true := by
  simp [grants, granted, Service.positiveResponse]

end GatewayOutput

/-! ## Services that leave the download alone -/

/-- Two gateways with the same settings and the same routing, but for the times in it. -/
structure SameSession (gateway next : Gateway) : Prop where
  config : next.config = gateway.config
  state : next.routing.state = gateway.routing.state
  peer : next.routing.peer = gateway.routing.peer

theorem SameSession.refl (gateway : Gateway) : SameSession gateway gateway := ⟨rfl, rfl, rfl⟩

/-- Serving a request had nothing to do with downloads, or was refused. -/
structure Served.LeavesDownload (gateway : Gateway) (served : Served) : Prop where
  session : SameSession gateway served.gateway
  download : served.gateway.download = gateway.download
  inspected : served.gateway.inspected = gateway.inspected
  events : served.events.filter GatewayEvent.isTransfer = []
  followups : ∀ frame ∈ served.followups, frame.serviceData? = none

namespace Served.LeavesDownload

theorem refuse (gateway : Gateway) (fault : GatewayFault) :
    LeavesDownload gateway (.refuse gateway fault) where
  session := .refl gateway
  download := rfl
  inspected := rfl
  events := rfl
  followups := by simp [Served.refuse]

/-- Only the programming services have to do with downloads. -/
theorem of_effect {gateway : Gateway} {service : UInt8} {served : Served}
    (effect : Effect gateway service served) (other : service ∉ Service.programming) :
    LeavesDownload gateway served := by
  cases effect with
  | refused fault => exact refuse gateway fault
  | told => exact ⟨.refl gateway, rfl, rfl, rfl, by simp⟩
  | reported subject => exact ⟨.refl gateway, rfl, rfl, rfl, by simp⟩
  | @collected data events subject flag offered quiet =>
      have silent : events.filter GatewayEvent.isTransfer = [] := by
        apply List.filter_eq_nil_iff.mpr
        intro event member
        exact Bool.eq_false_iff.mp (quiet event member)
      cases subject <;> exact ⟨⟨rfl, rfl, rfl⟩, rfl, rfl, silent, by simp⟩
  | programmed _ _ offered => exact absurd offered other
  | failed _ _ offered => exact absurd offered other

end Served.LeavesDownload

/-! ## The step of a download -/

/-- An input is a request to the gateway by its active tester. -/
structure Asks (gateway : Gateway) (input : GatewayInput) (tester : UInt16)
    (request : UdsRequest) : Prop where
  carried : input.request? =
    some { source := tester, target := gateway.localAddress, request := request }
  accepted : gateway.routing.accepts tester = true

/-- A message of the owner that can be read as a request is one. -/
theorem FromOwner.asks {gateway : Gateway} {frame : Frame} {now : Time}
    {message : DiagnosticMessage} {uds : UdsMessage} {request : UdsRequest}
    (owner : FromOwner gateway frame message uds) (parsed : UdsRequest.parse uds = .ok request) :
    Asks gateway (.frame frame now) message.source request where
  carried := by
    have carried : GatewayInput.request? (.frame frame now) = message.request? := by
      simp [GatewayInput.request?, owner.carried]
    rw [carried]
    exact DiagnosticMessage.request?_eq_some_iff.mpr
      ⟨uds, owner.decoded, parsed, rfl, owner.addressed⟩
  accepted := owner.accepted

/-- What an input can do to the download of a gateway, and what the output then shows. -/
inductive DownloadStep (gateway : Gateway) : GatewayInput → GatewayOutput → Gateway → Prop where
  /-- The input has nothing to do with downloads, or is refused. -/
  | quiet {input : GatewayInput} {output : GatewayOutput} {next : Gateway}
      (noReset : input ≠ .reset) (session : SameSession gateway next)
      (download : next.download = gateway.download)
      (inspected : next.inspected = gateway.inspected)
      (events : output.transferEvents = []) (ungranted : output.Ungranted) :
      DownloadStep gateway input output next
  /-- A download is opened. -/
  | opened {input : GatewayInput} {output : GatewayOutput} {next : Gateway} {tester : UInt16}
      {dataFormat : UInt8} {address size : UInt32} {maxBlockLength : UInt16}
      (asks : Asks gateway input tester (.requestDownload dataFormat address size))
      (session : SameSession gateway next)
      (download : gateway.download.request dataFormat address size =
        (.ok maxBlockLength, next.download))
      (inspected : next.inspected = none)
      (events : output.transferEvents = [.transferStarted address size])
      (replies : output.replies =
        [Service.positiveResponse Service.requestDownload
          (0x20 :: Octets.ofWord16 gateway.download.limits.maxBlockLength)]) :
      DownloadStep gateway input output next
  /-- A block is taken. -/
  | received {input : GatewayInput} {output : GatewayOutput} {next : Gateway} {tester : UInt16}
      {counter : UInt8} {block : Octets} {receipt : BlockReceipt}
      (asks : Asks gateway input tester (.transferData counter block))
      (session : SameSession gateway next)
      (download : gateway.download.receive counter block = (.ok receipt, next.download))
      (inspected : gateway.inspectionAfter next.download = .ok next.inspected)
      (events : output.transferEvents = [])
      (replies : output.replies = [Service.positiveResponse Service.transferData [counter]]) :
      DownloadStep gateway input output next
  /-- A block completes a header that is refused. -/
  | headerRefused {input : GatewayInput} {output : GatewayOutput} {next : Gateway}
      {tester : UInt16} {counter : UInt8} {block : Octets} {receipt : BlockReceipt}
      {filled : Download} {fault : PackageFault}
      (asks : Asks gateway input tester (.transferData counter block))
      (session : SameSession gateway next)
      (received : gateway.download.receive counter block = (.ok receipt, filled))
      (inspection : gateway.inspectionAfter filled = .error fault)
      (download : next.download = filled.abort) (inspected : next.inspected = none)
      (events : output.transferEvents = [.transferFailed (.download (.package fault))])
      (replies : output.replies =
        [Service.negativeResponseBytes Service.transferData fault.code]) :
      DownloadStep gateway input output next
  /-- A download is closed and its image delivered. -/
  | completed {input : GatewayInput} {output : GatewayOutput} {next : Gateway} {tester : UInt16}
      {parameters : Octets} {image : DownloadedImage} {package : Option VerifiedPackage}
      (asks : Asks gateway input tester (.requestTransferExit parameters))
      (session : SameSession gateway next)
      (download : gateway.download.exit = (.ok image, next.download))
      (verified : gateway.verdict image = .ok package) (inspected : next.inspected = none)
      (events : output.transferEvents = [.transferCompleted image package])
      (replies : output.replies =
        [Service.positiveResponse Service.requestTransferExit []]) :
      DownloadStep gateway input output next
  /-- A download is closed and its image refused. -/
  | packageRefused {input : GatewayInput} {output : GatewayOutput} {next : Gateway}
      {tester : UInt16} {parameters : Octets} {image : DownloadedImage} {closed : Download}
      {fault : PackageFault}
      (asks : Asks gateway input tester (.requestTransferExit parameters))
      (session : SameSession gateway next)
      (exit : gateway.download.exit = (.ok image, closed))
      (refused : gateway.verdict image = .error fault)
      (download : next.download = closed.abort) (inspected : next.inspected = none)
      (events : output.transferEvents = [.transferFailed (.package fault)])
      (replies : output.replies =
        [Service.negativeResponseBytes Service.requestTransferExit fault.code]) :
      DownloadStep gateway input output next
  /-- The session is lost, and the download ends with it. -/
  | aborted {input : GatewayInput} {output : GatewayOutput} {next : Gateway}
      {event : GatewayEvent}
      (loses : LosesSession gateway input event) (active : gateway.download.isActive = true)
      (config : next.config = gateway.config) (download : next.download = gateway.download.abort)
      (inspected : next.inspected = none)
      (events : output.events = [.transferFailed .routingInactive, event])
      (ungranted : output.Ungranted) :
      DownloadStep gateway input output next
  /-- The session is lost while there is no download. -/
  | sessionEnded {input : GatewayInput} {output : GatewayOutput} {next : Gateway}
      (noReset : input ≠ .reset) (inactive : gateway.download.isActive = false)
      (config : next.config = gateway.config) (download : next.download = gateway.download)
      (inspected : next.inspected = gateway.inspected)
      (events : output.transferEvents = []) (ungranted : output.Ungranted) :
      DownloadStep gateway input output next
  /-- A tester activates routing, and no other tester was active. -/
  | activated {input : GatewayInput} {output : GatewayOutput} {next : Gateway} {tester : UInt16}
      (noReset : input ≠ .reset)
      (alone : ∀ previous, gateway.routing.accepts previous = true → previous = tester)
      (config : next.config = gateway.config) (accepts : next.routing.accepts tester = true)
      (download : next.download = gateway.download)
      (inspected : next.inspected = gateway.inspected)
      (events : output.transferEvents = []) (ungranted : output.Ungranted) :
      DownloadStep gateway input output next
  /-- Everything is forgotten. -/
  | reset : DownloadStep gateway .reset .none gateway.reset

namespace Asks

variable {gateway : Gateway} {input : GatewayInput} {tester : UInt16}

theorem noReset {request : UdsRequest} (asks : Asks gateway input tester request) :
    input ≠ .reset := by
  rintro rfl
  cases asks.carried

theorem quiet {request : UdsRequest} {served : Served} (asks : Asks gateway input tester request)
    (leaves : served.LeavesDownload gateway)
    (ungranted : request.service ∉ Service.programming ∨ ∃ fault, served.answer = .error fault) :
    DownloadStep gateway input (gateway.answer tester request.service served) served.gateway := by
  have replies := Gateway.replies_answer gateway tester request.service leaves.followups
  refine .quiet asks.noReset leaves.session leaves.download leaves.inspected leaves.events ?_
  unfold Served.response at replies
  cases answerEq : served.answer with
  | ok data =>
      rw [answerEq] at replies
      rcases ungranted with other | ⟨fault, refused⟩
      · exact GatewayOutput.ungranted_of_positive replies other
      · rw [answerEq] at refused
        cases refused
  | error fault =>
      rw [answerEq] at replies
      exact GatewayOutput.ungranted_of_negative replies

theorem refused {request : UdsRequest} (asks : Asks gateway input tester request)
    (fault : GatewayFault) :
    DownloadStep gateway input
      (gateway.answer tester request.service (.refuse gateway fault)) gateway :=
  asks.quiet (.refuse gateway fault) (.inr ⟨fault, rfl⟩)

theorem requestDownload {dataFormat : UInt8} {address size : UInt32}
    (asks : Asks gateway input tester (.requestDownload dataFormat address size)) :
    DownloadStep gateway input
      (gateway.answer tester Service.requestDownload
        (gateway.requestDownload dataFormat address size))
      (gateway.requestDownload dataFormat address size).gateway := by
  apply gateway.requestDownload_cases dataFormat address size (motive := fun served =>
    DownloadStep gateway input (gateway.answer tester Service.requestDownload served)
      served.gateway)
  case refused => exact fun fault => asks.refused (.download fault)
  case opened =>
    intro maxBlockLength download requestEq
    exact .opened asks ⟨rfl, rfl, rfl⟩ requestEq rfl rfl
      (Gateway.replies_answer gateway tester _ (by simp))

theorem transferData {counter : UInt8} {block : Octets}
    (asks : Asks gateway input tester (.transferData counter block)) :
    DownloadStep gateway input
      (gateway.answer tester Service.transferData (gateway.transferData counter block))
      (gateway.transferData counter block).gateway := by
  apply gateway.transferData_cases counter block (motive := fun served =>
    DownloadStep gateway input (gateway.answer tester Service.transferData served)
      served.gateway)
  case refused => exact fun fault => asks.refused (.download fault)
  case received =>
    intro receipt download inspected receiveEq inspectionEq
    exact .received asks ⟨rfl, rfl, rfl⟩ receiveEq inspectionEq rfl
      (Gateway.replies_answer gateway tester _ (by simp))
  case headerRefused =>
    intro receipt download fault receiveEq inspectionEq
    exact .headerRefused asks ⟨rfl, rfl, rfl⟩ receiveEq inspectionEq rfl rfl rfl
      (Gateway.replies_answer gateway tester _ (by simp))

theorem requestTransferExit {parameters : Octets}
    (asks : Asks gateway input tester (.requestTransferExit parameters)) :
    DownloadStep gateway input
      (gateway.answer tester Service.requestTransferExit gateway.requestTransferExit)
      gateway.requestTransferExit.gateway := by
  apply gateway.requestTransferExit_cases (motive := fun served =>
    DownloadStep gateway input (gateway.answer tester Service.requestTransferExit served)
      served.gateway)
  case refused => exact fun fault => asks.refused (.download fault)
  case completed =>
    intro image download package exitEq verdictEq
    exact .completed asks ⟨rfl, rfl, rfl⟩ exitEq verdictEq rfl rfl
      (Gateway.replies_answer gateway tester _ (by simp))
  case packageRefused =>
    intro image download fault exitEq verdictEq
    exact .packageRefused asks ⟨rfl, rfl, rfl⟩ exitEq verdictEq rfl rfl rfl
      (Gateway.replies_answer gateway tester _ (by simp))

/-- Serving a request of the active tester is a step of the download. -/
theorem serveRequest {request : UdsRequest} (asks : Asks gateway input tester request) :
    DownloadStep gateway input
      (gateway.answer tester request.service (gateway.serveRequest request))
      (gateway.serveRequest request).gateway := by
  cases request with
  | readDataByIdentifier identifier =>
      have other : Service.readDataByIdentifier ∉ Service.programming := by decide
      exact asks.quiet (.of_effect (gateway.effect_readData identifier) other) (.inl other)
  | routineControl subFunction routine options =>
      have other : Service.routineControl ∉ Service.programming := by decide
      exact asks.quiet (.of_effect (gateway.effect_controlRoutine subFunction routine) other)
        (.inl other)
  | requestDownload dataFormat address size => exact asks.requestDownload
  | transferData counter block => exact asks.transferData
  | requestTransferExit parameters => exact asks.requestTransferExit
  | unsupported service => exact asks.refused (.refused service .serviceNotSupported)

end Asks

/-! ## Frames -/

section

variable {gateway : Gateway} {input : GatewayInput}

/-- An input that changes nothing and to which no diagnostic message is sent. -/
theorem DownloadStep.unchanged {output : GatewayOutput} (noReset : input ≠ .reset)
    (events : output.transferEvents = []) (ungranted : output.Ungranted) :
    DownloadStep gateway input output gateway :=
  .quiet noReset (.refl gateway) rfl rfl events ungranted

/-- Losing the session ends the download, if there is one. -/
theorem DownloadStep.of_losesSession {event : GatewayEvent}
    (loses : LosesSession gateway input event) :
    DownloadStep gateway input (gateway.step input).1 (gateway.step input).2 := by
  obtain ⟨frames, routing, silent, stepEq⟩ := loses.step_eq
  rw [stepEq]
  have ungranted (events : List GatewayEvent) :
      GatewayOutput.Ungranted { frames := frames, events := events } :=
    GatewayOutput.ungranted_of_replies_nil silent
  cases activeEq : gateway.download.isActive with
  | true =>
      rw [Gateway.abortDownload_of_active activeEq]
      exact .aborted loses activeEq rfl rfl rfl rfl (ungranted _)
  | false =>
      rw [Gateway.abortDownload_of_inactive activeEq]
      refine .sessionEnded loses.noReset activeEq rfl rfl rfl ?_ (ungranted _)
      simp [GatewayOutput.transferEvents, loses.isTransfer_event]

/-- What a frame does that loses no session is a step of the download. -/
theorem FrameEffect.downloadStep {frame : Frame} {now : Time} {output : GatewayOutput}
    {next : Gateway} (effect : FrameEffect gateway frame now output next)
    (kept : ∀ event, ¬LosesSession gateway (.frame frame now) event) :
    DownloadStep gateway (.frame frame now) output next := by
  have noReset : GatewayInput.frame frame now ≠ .reset := by simp
  -- An activation by another tester loses the session, so that only the owner is left to activate.
  cases effect with
  | refused | ignored | aliveAsked | wrongSource | wrongTarget =>
      exact .unchanged noReset rfl (GatewayOutput.ungranted_of_replies_nil rfl)
  | aliveAnswered | vciReported | healthReported | readinessReported =>
      exact .quiet noReset ⟨rfl, rfl, rfl⟩ rfl rfl rfl (GatewayOutput.ungranted_of_replies_nil rfl)
  | @activated request activation parsed =>
      have alone : ∀ owner, gateway.routing.accepts owner = true → owner = request.source := by
        intro owner owned
        by_cases same : owner = request.source
        · exact same
        · exact absurd (.takenOver activation parsed owned same) (kept _)
      refine .activated noReset alone rfl ?_ rfl rfl rfl ?_
      · simp [Routing.accepts, Routing.isActive, Routing.activate]
      · exact GatewayOutput.ungranted_of_replies_nil rfl
  | takenOver activation parsed owned other =>
      exact absurd (.takenOver activation parsed owned other) (kept _)
  | unrouted =>
      exact .unchanged noReset rfl
        (GatewayOutput.ungranted_of_negative (gateway.replies_ofFrame_negative ..))
  | @responded message uds =>
      have silent := gateway.replies_acknowledgementFrames message.source
        [.responseReceived message.source uds]
      exact .unchanged noReset rfl (GatewayOutput.ungranted_of_replies_nil silent)
  | @served message uds owner =>
      unfold Gateway.serve
      cases parsed : UdsRequest.parse uds with
      | ok request =>
          rw [← UdsRequest.service_of_parse parsed]
          exact (owner.asks parsed).serveRequest
      | error fault =>
          have refused := gateway.replies_answer message.source uds.service
            (Served.LeavesDownload.refuse gateway (.uds fault)).followups
          exact .unchanged noReset rfl (GatewayOutput.ungranted_of_negative refused)

/-! ### The sign of life -/

section

variable {touched next : Gateway}

theorem SameSession.of_sameButTimes (times : SameButTimes gateway touched)
    (same : SameSession touched next) : SameSession gateway next := by
  obtain ⟨lastActivity, pendingSince, rfl⟩ := times
  exact ⟨same.config, same.state, same.peer⟩

theorem Asks.of_sameButTimes {tester : UInt16} {request : UdsRequest}
    (times : SameButTimes gateway touched) (asks : Asks touched input tester request) :
    Asks gateway input tester request := by
  obtain ⟨lastActivity, pendingSince, rfl⟩ := times
  exact ⟨asks.carried, asks.accepted⟩

/-- A sign of life saves no session from another tester. -/
theorem LosesSession.of_sameButTimes {frame : Frame} {now : Time} {event : GatewayEvent}
    (times : SameButTimes gateway touched) (loses : LosesSession touched (.frame frame now) event) :
    LosesSession gateway (.frame frame now) event := by
  obtain ⟨lastActivity, pendingSince, rfl⟩ := times
  cases loses with
  | takenOver activation parsed owned other => exact .takenOver activation parsed owned other

/-- A sign of life is not seen in a step of the download. -/
theorem DownloadStep.of_sameButTimes {frame : Frame} {now : Time} {output : GatewayOutput}
    (times : SameButTimes gateway touched)
    (step : DownloadStep touched (.frame frame now) output next) :
    DownloadStep gateway (.frame frame now) output next := by
  have noted := times
  obtain ⟨lastActivity, pendingSince, rfl⟩ := times
  cases step with
  | quiet noReset same download inspected events ungranted =>
      exact .quiet noReset (same.of_sameButTimes noted) download inspected events ungranted
  | opened asks same download inspected events replies =>
      exact .opened (asks.of_sameButTimes noted) (same.of_sameButTimes noted) download inspected
        events replies
  | received asks same download inspected events replies =>
      exact .received (asks.of_sameButTimes noted) (same.of_sameButTimes noted) download inspected
        events replies
  | headerRefused asks same received inspection download inspected events replies =>
      exact .headerRefused (asks.of_sameButTimes noted) (same.of_sameButTimes noted) received
        inspection download inspected events replies
  | completed asks same download verified inspected events replies =>
      exact .completed (asks.of_sameButTimes noted) (same.of_sameButTimes noted) download verified
        inspected events replies
  | packageRefused asks same exit refused download inspected events replies =>
      exact .packageRefused (asks.of_sameButTimes noted) (same.of_sameButTimes noted) exit refused
        download inspected events replies
  | aborted loses active config download inspected events ungranted =>
      exact .aborted (loses.of_sameButTimes noted) active config download inspected events ungranted
  | sessionEnded noReset inactive config download inspected events ungranted =>
      exact .sessionEnded noReset inactive config download inspected events ungranted
  | activated noReset alone config accepts download inspected events ungranted =>
      exact .activated noReset alone config accepts download inspected events ungranted

end

theorem downloadStep_handleFrame {frame : Frame} {now : Time}
    (kept : ∀ event, ¬LosesSession gateway (.frame frame now) event) :
    DownloadStep gateway (.frame frame now) (gateway.handleFrame frame now).1
      (gateway.handleFrame frame now).2 := by
  have noted := gateway.sameButTimes_noteActivity now
  apply DownloadStep.of_sameButTimes noted
  apply (gateway.frameEffect_handleFrame frame now).downloadStep
  intro event loses
  exact kept event (loses.of_sameButTimes noted)

/-! ## The host's operations -/

theorem downloadStep_pollAliveCheck {now : Time}
    (kept : ∀ event, ¬LosesSession gateway (.poll now) event) :
    DownloadStep gateway (.poll now) (gateway.pollAliveCheck now).1
      (gateway.pollAliveCheck now).2 := by
  have noReset : GatewayInput.poll now ≠ .reset := by simp
  unfold Gateway.pollAliveCheck
  rcases gateway.routing.poll_cases now with
    notDue | ⟨request, next, send, state, peer⟩ | ⟨-, expired⟩
  · rw [notDue]
    exact .unchanged noReset rfl (GatewayOutput.ungranted_of_replies_nil rfl)
  · rw [send]
    exact .quiet noReset ⟨rfl, state, peer⟩ rfl rfl rfl
      (GatewayOutput.ungranted_of_replies_nil rfl)
  · exact absurd (.expired (congrArg Prod.fst expired)) (kept _)

theorem downloadStep_deactivate (kept : ∀ event, ¬LosesSession gateway .deactivate event) :
    DownloadStep gateway .deactivate gateway.deactivate.1 gateway.deactivate.2 := by
  have noReset : GatewayInput.deactivate ≠ .reset := by simp
  have inactive : gateway.routing.isActive = false :=
    Bool.eq_false_iff.mpr fun active => kept _ (.deactivated active)
  simp only [Gateway.deactivate, inactive, Bool.false_eq_true, if_false]
  exact .quiet noReset ⟨rfl, Routing.state_deactivate inactive, rfl⟩ rfl rfl rfl
    (GatewayOutput.ungranted_of_replies_nil rfl)

/-- Every input makes a step of the download. -/
theorem downloadStep_step (gateway : Gateway) (input : GatewayInput) :
    DownloadStep gateway input (gateway.step input).1 (gateway.step input).2 := by
  by_cases lost : ∃ event, LosesSession gateway input event
  · obtain ⟨event, loses⟩ := lost
    exact .of_losesSession loses
  · have kept : ∀ event, ¬LosesSession gateway input event := not_exists.mp lost
    cases input with
    | frame frame now => exact downloadStep_handleFrame kept
    | poll now => exact downloadStep_pollAliveCheck kept
    | deactivate => exact downloadStep_deactivate kept
    | reset => exact .reset

end

end DiagnosticGateway
