/-
Module: DiagnosticGateway.Proofs.Gateway.ServiceEffect
Purpose: Everything that serving a request can do to a gateway.
Main exports:
  Served.Effect, Gateway.effect_serve
-/
import DiagnosticGateway.Gateway.Dispatch
import DiagnosticGateway.Proofs.Gateway.Exchange
import DiagnosticGateway.Proofs.Gateway.Programming

/-!
`Served.Effect` lists what can become of a request: which part of the gateway it changes, how it is
answered, and what is reported.  What holds of all services is read from the list.
-/

namespace DiagnosticGateway

/-- Everything that serving a request for a service can do. -/
inductive Served.Effect (gateway : Gateway) (service : UInt8) : Served → Prop where
  /-- The request is refused, and nothing changes. -/
  | refused (fault : GatewayFault) : Effect gateway service (.refuse gateway fault)
  /-- Data are given, and nothing changes. -/
  | told {data : Octets}
      (offered : service = Service.readDataByIdentifier ∨ service = Service.routineControl) :
      Effect gateway service { gateway := gateway, answer := .ok data }
  /-- A report follows, and nothing changes. -/
  | reported {data : Octets} (subject : RoutineSubject)
      (offered : service = Service.routineControl) :
      Effect gateway service
        { gateway := gateway, answer := .ok data, followups := [gateway.reportFrame subject] }
  /-- A collection is started or ended. -/
  | collected {data : Octets} {events : List GatewayEvent} (subject : RoutineSubject)
      (flag : Bool) (offered : service = Service.routineControl)
      (quiet : ∀ event ∈ events, event.isTransfer = false) :
      Effect gateway service
        { gateway := gateway.setCollecting subject flag, answer := .ok data, events := events }
  /-- A download is opened, filled or closed. -/
  | programmed {data : Octets} {events : List GatewayEvent} (download : Download)
      (inspected : Option PackageHeader) (offered : service ∈ Service.programming)
      (unfailed : ∀ fault, .transferFailed fault ∉ events) :
      Effect gateway service
        { gateway := { gateway with download := download, inspected := inspected }
          answer := .ok data
          events := events }
  /-- The download fails, and the answer gives the same reason as the report. -/
  | failed (download : Download) (fault : GatewayFault)
      (offered : service ∈ Service.programming) :
      Effect gateway service
        { gateway := { gateway with download := download.abort, inspected := none }
          answer := .error fault
          events := [.transferFailed fault] }

namespace Gateway

open Served

variable (gateway : Gateway)

theorem effect_readData (identifier : UInt16) :
    Effect gateway Service.readDataByIdentifier (gateway.readData identifier) := by
  unfold readData
  split
  · exact .told (.inl rfl)
  · exact .refused _

theorem effect_controlRoutine (subFunction : UInt8) (code : UInt16) :
    Effect gateway Service.routineControl (gateway.controlRoutine subFunction code) := by
  unfold controlRoutine
  dsimp only
  split
  · exact .refused _
  · exact .refused _
  · apply Effect.collected _ _ rfl
    intro event member
    rw [List.mem_singleton.mp member]
    rfl
  · split
    · exact .reported _ rfl
    · exact .refused _
  · apply Effect.collected _ _ rfl
    intro event member
    cases member
  · exact .told (.inr rfl)

theorem effect_requestDownload (dataFormat : UInt8) (address size : UInt32) :
    Effect gateway Service.requestDownload
      (gateway.requestDownload dataFormat address size) := by
  apply gateway.requestDownload_cases dataFormat address size
  case refused => exact fun fault => .refused _
  case opened => exact fun _ download _ => .programmed download none (by decide) (by simp)

theorem effect_transferData (counter : UInt8) (block : Octets) :
    Effect gateway Service.transferData (gateway.transferData counter block) := by
  apply gateway.transferData_cases counter block
  case refused => exact fun fault => .refused _
  case received =>
    exact fun _ download inspected _ _ => .programmed download inspected (by decide) (by simp)
  case headerRefused => exact fun _ download fault _ _ => .failed download _ (by decide)

theorem effect_requestTransferExit :
    Effect gateway Service.requestTransferExit gateway.requestTransferExit := by
  apply gateway.requestTransferExit_cases
  case refused => exact fun fault => .refused _
  case completed => exact fun _ download _ _ _ => .programmed download none (by decide) (by simp)
  case packageRefused => exact fun _ download fault _ _ => .failed download _ (by decide)

theorem effect_serveRequest (request : UdsRequest) :
    Effect gateway request.service (gateway.serveRequest request) := by
  cases request with
  | readDataByIdentifier identifier => exact gateway.effect_readData identifier
  | routineControl subFunction routine options =>
      exact gateway.effect_controlRoutine subFunction routine
  | requestDownload dataFormat address size =>
      exact gateway.effect_requestDownload dataFormat address size
  | transferData counter block => exact gateway.effect_transferData counter block
  | requestTransferExit parameters => exact gateway.effect_requestTransferExit
  | unsupported service => exact .refused _

/-- What can become of a message that is served. -/
theorem effect_serve (message : UdsMessage) :
    Effect gateway message.service (gateway.serve message) := by
  unfold serve
  cases parsed : UdsRequest.parse message with
  | ok request =>
      rw [← UdsRequest.service_of_parse parsed]
      exact gateway.effect_serveRequest request
  | error fault => exact .refused _

end Gateway

end DiagnosticGateway
