/-
Module: DiagnosticGateway.Proofs.Gateway.Programming
Purpose: What the programming services do, outcome by outcome.
Main exports:
  Gateway.inspectionAfter, Gateway.verdict, requestDownload_cases, transferData_cases,
  requestTransferExit_cases
-/
import DiagnosticGateway.Gateway.Programming
import DiagnosticGateway.Proofs.Download.Session

/-!
Each of the three services asks the download first and, where packages are verified, the package
after it.  A refusal of the download changes nothing; a refusal of the package ends the download.
-/

namespace DiagnosticGateway.Gateway

/-! ## Giving a download up -/

theorem abortDownload_of_active {gateway : Gateway} (active : gateway.download.isActive = true) :
    gateway.abortDownload =
      ([.transferFailed .routingInactive],
        { gateway with download := gateway.download.abort, inspected := none }) := by
  simp [abortDownload, active, failDownload]

theorem abortDownload_of_inactive {gateway : Gateway}
    (inactive : gateway.download.isActive = false) : gateway.abortDownload = ([], gateway) := by
  simp [abortDownload, inactive]

@[simp] theorem routing_abortDownload (gateway : Gateway) :
    gateway.abortDownload.2.routing = gateway.routing := by
  unfold abortDownload
  split <;> rfl

/-- Giving a download up and changing the routing do not get in each other's way. -/
theorem abortDownload_withRouting (gateway : Gateway) (routing : Routing) :
    { gateway with routing := routing }.abortDownload =
      (gateway.abortDownload.1, { gateway.abortDownload.2 with routing := routing }) := by
  unfold abortDownload
  dsimp only
  split <;> rfl

/-! ## The verdicts on a package -/

/-- The inspected header after a block that led to `download`, or why the header was refused. -/
def inspectionAfter (gateway : Gateway) (download : Download) :
    Except PackageFault (Option PackageHeader) :=
  if { gateway with download := download }.inspectionDue then
    { gateway with download := download }.inspectPackage.map some
  else .ok gateway.inspected

/-- The header is inspected by the block that completes it. -/
theorem inspectionAfter_of_whole {gateway : Gateway} {download : Download}
    (verifying : gateway.config.download.verifyPackage = true)
    (nothing : gateway.inspected = none)
    (whole : Package.headerLength ≤ download.received.length) :
    gateway.inspectionAfter download =
      { gateway with download := download }.inspectPackage.map some := by
  simp [inspectionAfter, inspectionDue, verifying, nothing, whole]

theorem inspectionAfter_of_short {gateway : Gateway} {download : Download}
    (short : download.received.length < Package.headerLength) :
    gateway.inspectionAfter download = .ok gateway.inspected := by
  simp [inspectionAfter, inspectionDue, Nat.not_le.mpr short]

theorem inspectionAfter_of_inspected {gateway : Gateway} {download : Download}
    {header : PackageHeader} (kept : gateway.inspected = some header) :
    gateway.inspectionAfter download = .ok (some header) := by
  simp [inspectionAfter, inspectionDue, kept]

/-- The package in a completed image, or why the image was refused. -/
def verdict (gateway : Gateway) (image : DownloadedImage) :
    Except PackageFault (Option VerifiedPackage) :=
  if gateway.config.download.verifyPackage then (gateway.verifyPackage image).map some
  else .ok none

/-! ## The programming services -/

theorem requestDownload_of_error {gateway : Gateway} {dataFormat : UInt8} {address size : UInt32}
    {download : Download} {fault : DownloadFault}
    (refused : gateway.download.request dataFormat address size = (.error fault, download)) :
    gateway.requestDownload dataFormat address size = .refuse gateway (.download fault) := by
  simp only [requestDownload, refused, Download.eq_of_request_eq_error refused]

theorem requestDownload_of_ok {gateway : Gateway} {dataFormat : UInt8} {address size : UInt32}
    {download : Download} {maxBlockLength : UInt16}
    (granted : gateway.download.request dataFormat address size = (.ok maxBlockLength, download)) :
    gateway.requestDownload dataFormat address size =
      { gateway := { gateway with download := download, inspected := none }
        answer := .ok (0x20 :: Octets.ofWord16 gateway.download.limits.maxBlockLength)
        events := [.transferStarted address size] } := by
  obtain ⟨-, -, rfl, -⟩ := Download.request_eq_ok_iff.mp granted
  simp only [requestDownload, granted]

/-- What a request for a download comes to: the download refuses it, or is opened. -/
theorem requestDownload_cases {motive : Served → Prop} (gateway : Gateway) (dataFormat : UInt8)
    (address size : UInt32)
    (refused : ∀ fault, motive (.refuse gateway (.download fault)))
    (opened : ∀ maxBlockLength download,
      gateway.download.request dataFormat address size = (.ok maxBlockLength, download) →
        motive
          { gateway := { gateway with download := download, inspected := none }
            answer := .ok (0x20 :: Octets.ofWord16 gateway.download.limits.maxBlockLength)
            events := [.transferStarted address size] }) :
    motive (gateway.requestDownload dataFormat address size) := by
  cases requestEq : gateway.download.request dataFormat address size with
  | mk outcome download =>
      cases outcome with
      | error fault =>
          rw [requestDownload_of_error requestEq]
          exact refused fault
      | ok maxBlockLength =>
          rw [requestDownload_of_ok requestEq]
          exact opened maxBlockLength download requestEq

theorem transferData_of_error {gateway : Gateway} {counter : UInt8} {block : Octets}
    {download : Download} {fault : DownloadFault}
    (refused : gateway.download.receive counter block = (.error fault, download)) :
    gateway.transferData counter block = .refuse gateway (.download fault) := by
  simp only [transferData, refused, Download.eq_of_receive_eq_error refused]

/-- A block that the download grants is decided by the inspection. -/
theorem transferData_eq {gateway : Gateway} {counter : UInt8} {block : Octets}
    {download : Download} {receipt : BlockReceipt}
    (granted : gateway.download.receive counter block = (.ok receipt, download)) :
    gateway.transferData counter block =
      match gateway.inspectionAfter download with
      | .ok inspected =>
          { gateway := { gateway with download := download, inspected := inspected }
            answer := .ok [counter] }
      | .error fault =>
          { gateway := { gateway with download := download.abort, inspected := none }
            answer := .error (.download (.package fault))
            events := [.transferFailed (.download (.package fault))] } := by
  obtain ⟨-, -, -, -, -, rfl, -⟩ := Download.receive_eq_ok_iff.mp granted
  simp only [transferData, granted, inspectionAfter]
  by_cases due : { gateway with download := download }.inspectionDue = true
  · rw [if_pos due, if_pos due]
    cases { gateway with download := download }.inspectPackage with
    | ok header => rfl
    | error fault => rfl
  · rw [if_neg due, if_neg due]

theorem transferData_of_ok {gateway : Gateway} {counter : UInt8} {block : Octets}
    {download : Download} {receipt : BlockReceipt} {inspected : Option PackageHeader}
    (granted : gateway.download.receive counter block = (.ok receipt, download))
    (inspection : gateway.inspectionAfter download = .ok inspected) :
    gateway.transferData counter block =
      { gateway := { gateway with download := download, inspected := inspected }
        answer := .ok [counter] } := by
  rw [transferData_eq granted, inspection]

theorem transferData_of_refusedHeader {gateway : Gateway} {counter : UInt8} {block : Octets}
    {download : Download} {receipt : BlockReceipt} {fault : PackageFault}
    (granted : gateway.download.receive counter block = (.ok receipt, download))
    (inspection : gateway.inspectionAfter download = .error fault) :
    gateway.transferData counter block =
      { gateway := { gateway with download := download.abort, inspected := none }
        answer := .error (.download (.package fault))
        events := [.transferFailed (.download (.package fault))] } := by
  rw [transferData_eq granted, inspection]

/-- What a block comes to: the download refuses it, takes it, or fails on the header in it. -/
theorem transferData_cases {motive : Served → Prop} (gateway : Gateway) (counter : UInt8)
    (block : Octets)
    (refused : ∀ fault, motive (.refuse gateway (.download fault)))
    (received : ∀ receipt download inspected,
      gateway.download.receive counter block = (.ok receipt, download) →
        gateway.inspectionAfter download = .ok inspected →
          motive
            { gateway := { gateway with download := download, inspected := inspected }
              answer := .ok [counter] })
    (headerRefused : ∀ receipt download fault,
      gateway.download.receive counter block = (.ok receipt, download) →
        gateway.inspectionAfter download = .error fault →
          motive
            { gateway := { gateway with download := download.abort, inspected := none }
              answer := .error (.download (.package fault))
              events := [.transferFailed (.download (.package fault))] }) :
    motive (gateway.transferData counter block) := by
  cases receiveEq : gateway.download.receive counter block with
  | mk outcome download =>
      cases outcome with
      | error fault =>
          rw [transferData_of_error receiveEq]
          exact refused fault
      | ok receipt =>
          cases inspectionEq : gateway.inspectionAfter download with
          | ok inspected =>
              rw [transferData_of_ok receiveEq inspectionEq]
              exact received receipt download inspected receiveEq inspectionEq
          | error fault =>
              rw [transferData_of_refusedHeader receiveEq inspectionEq]
              exact headerRefused receipt download fault receiveEq inspectionEq

theorem requestTransferExit_of_error {gateway : Gateway} {download : Download}
    {fault : DownloadFault} (refused : gateway.download.exit = (.error fault, download)) :
    gateway.requestTransferExit = .refuse gateway (.download fault) := by
  simp only [requestTransferExit, refused, Download.eq_of_exit_eq_error refused]

/-- An exit that the download grants is decided by the verdict on the image. -/
theorem requestTransferExit_eq {gateway : Gateway} {image : DownloadedImage}
    {download : Download} (closed : gateway.download.exit = (.ok image, download)) :
    gateway.requestTransferExit =
      match gateway.verdict image with
      | .ok package =>
          { gateway := { gateway with download := download, inspected := none }
            answer := .ok []
            events := [.transferCompleted image package] }
      | .error fault =>
          { gateway := { gateway with download := download.abort, inspected := none }
            answer := .error (.package fault)
            events := [.transferFailed (.package fault)] } := by
  -- The verdict does not look at the download, which is closed before it is asked for.
  have same : { gateway with download := download }.verifyPackage image =
    gateway.verifyPackage image := rfl
  simp only [requestTransferExit, closed, verdict, same]
  by_cases verifying : gateway.config.download.verifyPackage = true
  · rw [if_pos verifying, if_pos verifying]
    cases gateway.verifyPackage image with
    | ok package => rfl
    | error fault => rfl
  · rw [if_neg verifying, if_neg verifying]

theorem requestTransferExit_of_ok {gateway : Gateway} {image : DownloadedImage}
    {download : Download} {package : Option VerifiedPackage}
    (closed : gateway.download.exit = (.ok image, download))
    (verified : gateway.verdict image = .ok package) :
    gateway.requestTransferExit =
      { gateway := { gateway with download := download, inspected := none }
        answer := .ok []
        events := [.transferCompleted image package] } := by
  rw [requestTransferExit_eq closed, verified]

theorem requestTransferExit_of_refusedPackage {gateway : Gateway} {image : DownloadedImage}
    {download : Download} {fault : PackageFault}
    (closed : gateway.download.exit = (.ok image, download))
    (refused : gateway.verdict image = .error fault) :
    gateway.requestTransferExit =
      { gateway := { gateway with download := download.abort, inspected := none }
        answer := .error (.package fault)
        events := [.transferFailed (.package fault)] } := by
  rw [requestTransferExit_eq closed, refused]

/-- What the end of a transfer comes to: the download refuses it, the image is delivered, or the
package in it is refused. -/
theorem requestTransferExit_cases {motive : Served → Prop} (gateway : Gateway)
    (refused : ∀ fault, motive (.refuse gateway (.download fault)))
    (completed : ∀ image download package,
      gateway.download.exit = (.ok image, download) → gateway.verdict image = .ok package →
        motive
          { gateway := { gateway with download := download, inspected := none }
            answer := .ok []
            events := [.transferCompleted image package] })
    (packageRefused : ∀ image download fault,
      gateway.download.exit = (.ok image, download) → gateway.verdict image = .error fault →
        motive
          { gateway := { gateway with download := download.abort, inspected := none }
            answer := .error (.package fault)
            events := [.transferFailed (.package fault)] }) :
    motive gateway.requestTransferExit := by
  cases exitEq : gateway.download.exit with
  | mk outcome download =>
      cases outcome with
      | error fault =>
          rw [requestTransferExit_of_error exitEq]
          exact refused fault
      | ok image =>
          cases verdictEq : gateway.verdict image with
          | ok package =>
              rw [requestTransferExit_of_ok exitEq verdictEq]
              exact completed image download package exitEq verdictEq
          | error fault =>
              rw [requestTransferExit_of_refusedPackage exitEq verdictEq]
              exact packageRefused image download fault exitEq verdictEq

end DiagnosticGateway.Gateway
