/-
Module: DiagnosticGateway.Proofs.Gateway.Served
Purpose: What becomes of a download request that the owner of the session makes.
Main exports:
  Asks.step_eq, Gateway.Leaves, Asks.opens, Asks.receives, Asks.refusesHeader, Asks.completes,
  Asks.refusesPackage
-/
import DiagnosticGateway.Proofs.Gateway.DownloadStep

/-!
`DownloadStep` says what an input can have done when only its outcome is known.  Here the request is
known, and the outcome follows from the download and from the verdict on the package.
-/

namespace DiagnosticGateway

/-! ## Reaching the services -/

/-- A request for a programming service is no response. -/
theorem Service.isResponseId_of_programming :
    ∀ service ∈ Service.programming, Service.isResponseId service = false :=
  Service.forall_programming.mpr (by decide)

theorem Gateway.handleDiagnostic_of_request {gateway : Gateway} {message : DiagnosticMessage}
    {uds : UdsMessage} {request : UdsRequest}
    (accepted : gateway.routing.accepts message.source = true)
    (addressed : message.target = gateway.localAddress)
    (decoded : UdsMessage.decode message.userData = .ok uds)
    (requested : UdsRequest.parse uds = .ok request) (noResponse : uds.isResponse = false) :
    gateway.handleDiagnostic message =
      (gateway.answer message.source request.service (gateway.serveRequest request),
        (gateway.serveRequest request).gateway) := by
  have active := (Routing.accepts_iff.mp accepted).1
  have service := UdsRequest.service_of_parse requested
  simp [handleDiagnostic, active, accepted, addressed, decoded, handleUds, noResponse, serve,
    requested, service, answer]

/-- A request of the owner is served, and the response goes back. -/
theorem Asks.step_eq {gateway : Gateway} {input : GatewayInput} {tester : UInt16}
    {request : UdsRequest} (asks : Asks gateway input tester request)
    (unmarked : Service.isResponseId request.service = false) :
    ∃ now, gateway.step input =
      ({ gateway with routing := gateway.routing.touch now }.answer tester request.service
          ({ gateway with routing := gateway.routing.touch now }.serveRequest request),
        ({ gateway with routing := gateway.routing.touch now }.serveRequest request).gateway) := by
  obtain ⟨carried, accepted⟩ := asks
  cases input with
  | poll now => cases carried
  | deactivate => cases carried
  | reset => cases carried
  | frame frame now =>
      obtain ⟨message, diagnostic, read⟩ := Option.bind_eq_some_iff.mp carried
      obtain ⟨payloadType, parsed⟩ := Frame.diagnostic?_eq_some_iff.mp diagnostic
      obtain ⟨uds, decoded, requested, rfl, addressed⟩ :=
        DiagnosticMessage.request?_eq_some_iff.mp read
      have active := (Routing.accepts_iff.mp accepted).1
      have noResponse : uds.isResponse = false := by
        unfold UdsMessage.isResponse
        rw [← UdsRequest.service_of_parse requested]
        exact unmarked
      refine ⟨now, ?_⟩
      simp only [Gateway.step, Gateway.handleFrame, Gateway.noteActivity_of_active active,
        payloadType, Gateway.handlePayload, Gateway.orRefuse, parsed]
      exact Gateway.handleDiagnostic_of_request accepted addressed decoded requested noResponse

/-! ## Outcomes -/

/-- An input leaves a download and an inspected header behind, with the given events of downloads and
the given responses. -/
structure Gateway.Leaves (gateway : Gateway) (input : GatewayInput) (download : Download)
    (inspected : Option PackageHeader) (events : List GatewayEvent) (replies : List Octets) :
    Prop where
  session : SameSession gateway (gateway.step input).2
  download : (gateway.step input).2.download = download
  inspected : (gateway.step input).2.inspected = inspected
  events : (gateway.step input).1.transferEvents = events
  replies : (gateway.step input).1.replies = replies

namespace Asks

variable {gateway : Gateway} {input : GatewayInput} {tester : UInt16} {download : Download}

/-- What is left of serving a request is seen from outside. -/
theorem leaves {request : UdsRequest} {inspected : Option PackageHeader}
    (asks : Asks gateway input tester request) (answer : Except GatewayFault Octets)
    (events : List GatewayEvent) (programming : request.service ∈ Service.programming)
    (served : ∀ now,
      { gateway with routing := gateway.routing.touch now }.serveRequest request =
        { gateway :=
            { gateway with
              routing := gateway.routing.touch now
              download := download
              inspected := inspected }
          answer := answer
          events := events })
    (transfer : events.filter GatewayEvent.isTransfer = events) :
    gateway.Leaves input download inspected events
      [Served.response { gateway := gateway, answer := answer } request.service] := by
  obtain ⟨now, stepEq⟩ := asks.step_eq (Service.isResponseId_of_programming _ programming)
  rw [served now] at stepEq
  have reports : ∀ frame ∈ ([] : List Frame), frame.serviceData? = none := by simp
  refine ⟨?_, ?_, ?_, ?_, ?_⟩
  · rw [stepEq]
    exact ⟨rfl, rfl, rfl⟩
  · rw [stepEq]
  · rw [stepEq]
  · rw [stepEq]
    exact transfer
  · rw [stepEq]
    exact Gateway.replies_answer _ tester request.service reports

theorem opens {dataFormat : UInt8} {address size : UInt32} {maxBlockLength : UInt16}
    (asks : Asks gateway input tester (.requestDownload dataFormat address size))
    (granted : gateway.download.request dataFormat address size = (.ok maxBlockLength, download)) :
    gateway.Leaves input download none [.transferStarted address size]
      [Service.positiveResponse Service.requestDownload
        (0x20 :: Octets.ofWord16 gateway.download.limits.maxBlockLength)] := by
  refine asks.leaves (.ok _) [.transferStarted address size]
    (by simp [UdsRequest.service, Service.programming]) (fun now => ?_) rfl
  have touched : { gateway with routing := gateway.routing.touch now }.download.request dataFormat
      address size = (.ok maxBlockLength, download) := granted
  exact Gateway.requestDownload_of_ok touched

theorem receives {counter : UInt8} {block : Octets} {receipt : BlockReceipt}
    {inspected : Option PackageHeader}
    (asks : Asks gateway input tester (.transferData counter block))
    (granted : gateway.download.receive counter block = (.ok receipt, download))
    (inspection : gateway.inspectionAfter download = .ok inspected) :
    gateway.Leaves input download inspected []
      [Service.positiveResponse Service.transferData [counter]] := by
  refine asks.leaves (.ok [counter]) []
    (by simp [UdsRequest.service, Service.programming]) (fun now => ?_) rfl
  have touched : { gateway with routing := gateway.routing.touch now }.inspectionAfter download =
      .ok inspected := inspection
  exact Gateway.transferData_of_ok granted touched

theorem refusesHeader {counter : UInt8} {block : Octets} {receipt : BlockReceipt}
    {fault : PackageFault} (asks : Asks gateway input tester (.transferData counter block))
    (granted : gateway.download.receive counter block = (.ok receipt, download))
    (inspection : gateway.inspectionAfter download = .error fault) :
    gateway.Leaves input download.abort none [.transferFailed (.download (.package fault))]
      [Service.negativeResponseBytes Service.transferData fault.code] := by
  refine asks.leaves (.error (.download (.package fault)))
    [.transferFailed (.download (.package fault))]
    (by simp [UdsRequest.service, Service.programming]) (fun now => ?_) rfl
  have touched : { gateway with routing := gateway.routing.touch now }.inspectionAfter download =
      .error fault := inspection
  exact Gateway.transferData_of_refusedHeader granted touched

theorem completes {parameters : Octets} {image : DownloadedImage}
    {package : Option VerifiedPackage}
    (asks : Asks gateway input tester (.requestTransferExit parameters))
    (closed : gateway.download.exit = (.ok image, download))
    (verified : gateway.verdict image = .ok package) :
    gateway.Leaves input download none [.transferCompleted image package]
      [Service.positiveResponse Service.requestTransferExit []] := by
  refine asks.leaves (.ok []) [.transferCompleted image package]
    (by simp [UdsRequest.service, Service.programming]) (fun now => ?_) rfl
  have touched : { gateway with routing := gateway.routing.touch now }.verdict image =
      .ok package := verified
  exact Gateway.requestTransferExit_of_ok closed touched

theorem refusesPackage {parameters : Octets} {image : DownloadedImage} {fault : PackageFault}
    (asks : Asks gateway input tester (.requestTransferExit parameters))
    (closed : gateway.download.exit = (.ok image, download))
    (refused : gateway.verdict image = .error fault) :
    gateway.Leaves input download.abort none [.transferFailed (.package fault)]
      [Service.negativeResponseBytes Service.requestTransferExit fault.code] := by
  refine asks.leaves (.error (.package fault)) [.transferFailed (.package fault)]
    (by simp [UdsRequest.service, Service.programming]) (fun now => ?_) rfl
  have touched : { gateway with routing := gateway.routing.touch now }.verdict image =
      .error fault := refused
  exact Gateway.requestTransferExit_of_refusedPackage closed touched

end Asks

end DiagnosticGateway
