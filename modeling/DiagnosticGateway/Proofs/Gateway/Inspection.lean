/-
Module: DiagnosticGateway.Proofs.Gateway.Inspection
Purpose: The early inspection of a header and the verification at the exit agree.
Main exports:
  Inspection, DownloadStep.inspection, ExitGranted, ExitRefused, inspection_agrees_with_exit
-/
import DiagnosticGateway.Proofs.Gateway.OpenDownload
import DiagnosticGateway.Proofs.Gateway.Served
import DiagnosticGateway.Proofs.Package.Inspection

/-!
The header is inspected once, when the block that completes it comes, against the announced size.
The exit verifies the whole package against its own length.  The two see the same header bytes and
the same size, so the exit has nothing left to find but a wrong checksum, or a package that never had
a whole header.
-/

namespace DiagnosticGateway

/-! ## The inspected header -/

namespace Gateway

variable {gateway next : Gateway} {header : PackageHeader}

/-- A header is accepted when its inspection succeeds and its target has a staging slot. -/
theorem inspectPackage_eq_ok_iff :
    gateway.inspectPackage = .ok header ↔
      Package.inspect (gateway.download.received.take Package.headerLength)
          gateway.download.total = .ok header ∧
        ∃ target, header.resolve gateway.config.ecu = .ok target := by
  simp only [inspectPackage, bind_eq_ok_iff, pure, Except.pure, Except.ok.injEq]
  constructor
  · rintro ⟨found, inspected, target, resolved, rfl⟩
    exact ⟨inspected, target, resolved⟩
  · rintro ⟨inspected, target, resolved⟩
    exact ⟨header, inspected, target, resolved, rfl⟩

theorem inspectPackage_congr (config : next.config = gateway.config)
    (download : next.download = gateway.download) :
    next.inspectPackage = gateway.inspectPackage := by
  simp only [inspectPackage, config, download]

/-- A block behind the header is not looked at. -/
theorem inspectPackage_extend {block : Octets}
    (whole : Package.headerLength ≤ gateway.download.received.length) :
    { gateway with download := gateway.download.extend block }.inspectPackage =
      gateway.inspectPackage := by
  simp only [inspectPackage, Download.extend, List.take_append_of_le_length whole]

end Gateway

/-- A gateway that verifies packages holds a header exactly while a download with a whole header is
active, and it is the header that an inspection finds. -/
inductive Inspection (gateway : Gateway) : Prop where
  | missing (nothing : gateway.inspected = none)
      (early : gateway.download.isActive = true →
        gateway.download.received.length < Package.headerLength)
  | accepted {header : PackageHeader} (kept : gateway.inspected = some header)
      (active : gateway.download.isActive = true)
      (whole : Package.headerLength ≤ gateway.download.received.length)
      (inspected : gateway.inspectPackage = .ok header)

namespace Inspection

variable {gateway next : Gateway}

theorem of_inactive (nothing : gateway.inspected = none)
    (inactive : gateway.download.isActive = false) : Inspection gateway := by
  refine .missing nothing fun active => ?_
  rw [inactive] at active
  cases active

theorem congr (inspection : Inspection gateway) (config : next.config = gateway.config)
    (download : next.download = gateway.download)
    (inspected : next.inspected = gateway.inspected) : Inspection next := by
  cases inspection with
  | missing nothing early =>
      refine .missing (inspected.trans nothing) ?_
      rw [download]
      exact early
  | accepted kept active whole accepted =>
      refine .accepted (inspected.trans kept) ?_ ?_ ?_
      · rw [download]
        exact active
      · rw [download]
        exact whole
      · rw [Gateway.inspectPackage_congr config download]
        exact accepted

/-- A granted block keeps an accepted header, and completes a missing one or leaves it missing. -/
theorem receive {counter : UInt8} {block : Octets} {receipt : BlockReceipt}
    (inspection : Inspection gateway)
    (verifying : gateway.config.download.verifyPackage = true)
    (config : next.config = gateway.config)
    (granted : gateway.download.receive counter block = (.ok receipt, next.download))
    (inspected : gateway.inspectionAfter next.download = .ok next.inspected) :
    Inspection next := by
  obtain ⟨active, -, -, -, -, -, extended⟩ := Download.receive_eq_ok_iff.mp granted
  have stillActive : next.download.isActive = true := by
    rw [extended]
    exact Download.isActive_extend active block
  have same : next.inspectPackage = { gateway with download := next.download }.inspectPackage :=
    Gateway.inspectPackage_congr config rfl
  cases inspection with
  | missing nothing early =>
      by_cases whole : Package.headerLength ≤ next.download.received.length
      · rw [Gateway.inspectionAfter_of_whole verifying nothing whole] at inspected
        cases found : { gateway with download := next.download }.inspectPackage with
        | error fault =>
            rw [found] at inspected
            cases inspected
        | ok header =>
            rw [found] at inspected
            exact .accepted (Except.ok.inj inspected).symm stillActive whole (same.trans found)
      · have short := Nat.lt_of_not_le whole
        rw [Gateway.inspectionAfter_of_short short, nothing] at inspected
        exact .missing (Except.ok.inj inspected).symm fun _ => short
  | accepted kept _ whole accepted =>
      rw [Gateway.inspectionAfter_of_inspected kept] at inspected
      refine .accepted (Except.ok.inj inspected).symm stillActive ?_ ?_
      · rw [extended]
        simp only [Download.extend, List.length_append]
        omega
      · rw [same, extended, Gateway.inspectPackage_extend whole]
        exact accepted

end Inspection

/-- Every step of a gateway that verifies packages keeps its inspection right. -/
theorem DownloadStep.inspection {gateway next : Gateway} {input : GatewayInput}
    {output : GatewayOutput} (step : DownloadStep gateway input output next)
    (verifying : gateway.config.download.verifyPackage = true)
    (inspection : Inspection gateway) : Inspection next := by
  have config := step.config
  cases step with
  | quiet _ _ download inspected => exact inspection.congr config download inspected
  | opened _ _ download inspected =>
      obtain ⟨-, -, -, fresh⟩ := Download.request_eq_ok_iff.mp download
      refine .missing inspected fun _ => ?_
      rw [fresh]
      exact Nat.zero_lt_succ 63
  | received _ _ download inspected => exact inspection.receive verifying config download inspected
  | headerRefused _ _ _ _ download inspected => exact .of_inactive inspected (by simp [download])
  | completed _ _ download _ inspected =>
      obtain ⟨-, -, closed⟩ := Download.exit_eq_ok_iff.mp download
      exact .of_inactive inspected (by simp [closed, Download.isActive])
  | packageRefused _ _ _ _ download inspected =>
      exact .of_inactive inspected (by simp [download])
  | aborted _ _ _ download inspected => exact .of_inactive inspected (by simp [download])
  | sessionEnded _ _ _ download inspected => exact inspection.congr config download inspected
  | activated _ _ _ _ download inspected => exact inspection.congr config download inspected
  | reset => exact .of_inactive rfl rfl

theorem Reaches.inspection {config : GatewayConfig} {history : List Exchange} {gateway : Gateway}
    (reached : Reaches config history gateway)
    (verifying : gateway.config.download.verifyPackage = true) : Inspection gateway := by
  induction reached with
  | start started =>
      obtain ⟨-, rfl⟩ := Gateway.start?_eq_ok_iff.mp started
      exact .of_inactive rfl rfl
  | @step history gateway reached input inductionHypothesis =>
      have step := downloadStep_step gateway input
      rw [step.config] at verifying
      exact step.inspection verifying (inductionHypothesis verifying)

/-! ## The exit -/

namespace Gateway

variable {gateway : Gateway} {image : DownloadedImage} {header : PackageHeader}
  {fault : PackageFault}

/-- An image whose header is refused is refused for the same reason. -/
theorem verdict_of_refused (verifying : gateway.config.download.verifyPackage = true)
    (addressable : image.data.length ≤ 0xFFFFFFFF)
    (inspected : Package.inspect image.data (UInt32.ofNat image.data.length) = .error fault) :
    gateway.verdict image = .error fault := by
  simp only [verdict, verifying, if_true, verifyPackage,
    Package.verify_of_inspect_error addressable inspected]
  rfl

theorem verdict_of_short {image : DownloadedImage}
    (verifying : gateway.config.download.verifyPackage = true)
    (short : image.data.length < Package.headerLength) :
    gateway.verdict image = .error (.tooSmall image.data.length) := by
  have addressable : image.data.length ≤ 0xFFFFFFFF := by
    unfold Package.headerLength at short
    omega
  exact verdict_of_refused verifying addressable (Package.inspect_of_short short)

/-- An image whose header is accepted is refused only for its checksum. -/
theorem verdict_of_accepted {disposition : Disposition} {slot : StagingSlot}
    (verifying : gateway.config.download.verifyPackage = true)
    (addressable : image.data.length ≤ 0xFFFFFFFF)
    (inspected : Package.inspect image.data (UInt32.ofNat image.data.length) = .ok header)
    (resolved : header.resolve gateway.config.ecu = .ok (disposition, slot)) :
    gateway.verdict image =
      if Package.payloadChecksum header image.data = header.payloadChecksum then
        .ok (some { header := header, disposition := disposition, slot := slot })
      else
        .error (.corrupted header.payloadChecksum
          (Package.payloadChecksum header image.data)) := by
  simp only [verdict, verifying, if_true, verifyPackage,
    Package.verify_of_inspect_ok addressable inspected]
  split
  · simp only [bind, Except.bind, resolved]
    rfl
  · rfl

end Gateway

/-- A request to close a download is granted, and the image is delivered with its package. -/
structure ExitGranted (output : GatewayOutput) (image : DownloadedImage)
    (package : VerifiedPackage) : Prop where
  events : output.transferEvents = [.transferCompleted image (some package)]
  replies : output.replies = [[0x77]]

/-- A request to close a download is refused as a failure of the programming, because of its
package. -/
structure ExitRefused (output : GatewayOutput) (fault : PackageFault) : Prop where
  events : output.transferEvents = [.transferFailed (.package fault)]
  replies : output.replies = [[0x7F, 0x37, 0x72]]

theorem Asks.exitRefused {gateway : Gateway} {input : GatewayInput} {tester : UInt16}
    {parameters : Octets} {image : DownloadedImage} {download : Download} {fault : PackageFault}
    (asks : Asks gateway input tester (.requestTransferExit parameters))
    (closed : gateway.download.exit = (.ok image, download))
    (refused : gateway.verdict image = .error fault)
    (code : fault.code = .generalProgrammingFailure) :
    ExitRefused (gateway.step input).1 fault := by
  have leaves := asks.refusesPackage closed refused
  refine ⟨leaves.events, ?_⟩
  rw [leaves.replies, code]
  rfl

/-- What can come of a request to close a download that waits for it. -/
inductive ExitOutcome (gateway : Gateway) (output : GatewayOutput) : Prop where
  /-- The download never had a whole header. -/
  | tooSmall (short : gateway.download.total.toNat < 64)
      (refused : ExitRefused output (.tooSmall gateway.download.total.toNat))
  /-- The package is delivered with the header that was inspected. -/
  | delivered {header : PackageHeader} {disposition : Disposition} {slot : StagingSlot}
      (whole : 64 ≤ gateway.download.total.toNat) (kept : gateway.inspected = some header)
      (resolved : header.resolve gateway.config.ecu = .ok (disposition, slot))
      (granted : ExitGranted output
        { address := gateway.download.address, data := gateway.download.received }
        { header := header, disposition := disposition, slot := slot })
  /-- The payload does not have the checksum in the header that was inspected. -/
  | corrupted {header : PackageHeader} {actual : UInt32}
      (whole : 64 ≤ gateway.download.total.toNat) (kept : gateway.inspected = some header)
      (different : actual ≠ header.payloadChecksum)
      (refused : ExitRefused output (.corrupted header.payloadChecksum actual))

namespace Inspection

variable {gateway : Gateway}

theorem isSome_iff (inspection : Inspection gateway) :
    gateway.inspected.isSome = true ↔
      gateway.download.isActive = true ∧ 64 ≤ gateway.download.received.length := by
  cases inspection with
  | missing nothing early =>
      simp only [nothing, Option.isSome_none, Bool.false_eq_true, false_iff, not_and, Nat.not_le]
      exact early
  | accepted kept active whole =>
      simp only [kept, Option.isSome_some, true_iff]
      exact ⟨active, whole⟩

theorem accepts_of_inspected {header : PackageHeader} (inspection : Inspection gateway)
    (kept : gateway.inspected = some header) :
    Package.inspect (gateway.download.received.take 64) gateway.download.total = .ok header ∧
      ∃ target, header.resolve gateway.config.ecu = .ok target := by
  cases inspection with
  | missing nothing =>
      rw [nothing] at kept
      cases kept
  | accepted found _ _ accepted =>
      cases found.symm.trans kept
      exact Gateway.inspectPackage_eq_ok_iff.mp accepted

/-- The exit finds nothing that the inspection could have found. -/
theorem exitOutcome {input : GatewayInput} {tester : UInt16} {parameters : Octets}
    (inspection : Inspection gateway) (sound : gateway.download.Sound)
    (verifying : gateway.config.download.verifyPackage = true)
    (awaiting : gateway.download.state = .awaitingExit)
    (asks : Asks gateway input tester (.requestTransferExit parameters)) :
    ExitOutcome gateway (gateway.step input).1 := by
  have active := Download.isActive_of_awaitingExit awaiting
  have complete := (sound.active active).awaiting.mp awaiting
  have closed := Download.exit_eq_ok_iff.mpr ⟨awaiting, rfl, rfl⟩
  have addressable : gateway.download.received.length ≤ 0xFFFFFFFF := by
    have bound := gateway.download.total.toNat_lt
    omega
  cases inspection with
  | missing _ early =>
      have short := early active
      have refused : gateway.verdict
          { address := gateway.download.address, data := gateway.download.received } =
            .error (.tooSmall gateway.download.received.length) :=
        Gateway.verdict_of_short verifying short
      rw [complete] at short refused
      exact .tooSmall short (asks.exitRefused closed refused rfl)
  | accepted kept _ whole accepted =>
      obtain ⟨inspected, ⟨disposition, slot⟩, resolved⟩ :=
        Gateway.inspectPackage_eq_ok_iff.mp accepted
      have size : gateway.download.total = UInt32.ofNat gateway.download.received.length := by
        rw [complete, UInt32.ofNat_toNat]
      rw [Package.inspect_take whole, size] at inspected
      have verdict : gateway.verdict
          { address := gateway.download.address, data := gateway.download.received } = _ :=
        Gateway.verdict_of_accepted verifying addressable inspected resolved
      rw [complete] at whole
      split at verdict
      · have leaves := asks.completes closed verdict
        exact .delivered whole kept resolved ⟨leaves.events, leaves.replies⟩
      · rename_i different
        exact .corrupted whole kept different (asks.exitRefused closed verdict rfl)

end Inspection

/-- In a gateway that verifies packages, over every history: it holds an inspected header exactly
while a download is active of which the sixty-four bytes of a header have come, and the header is the
one that inspection and target look-up accept.  A download that waits for its exit can then be
refused only because it never had a whole header, or because of its checksum; and the package of a
delivered image is the inspected one. -/
theorem inspection_agrees_with_exit {config : GatewayConfig} {history : List Exchange}
    {gateway : Gateway} (reached : Reaches config history gateway)
    (verifying : gateway.config.download.verifyPackage = true) :
    (gateway.inspected.isSome = true ↔
      gateway.download.isActive = true ∧ 64 ≤ gateway.download.received.length) ∧
    (∀ header, gateway.inspected = some header →
      Package.inspect (gateway.download.received.take 64) gateway.download.total = .ok header ∧
        ∃ target, header.resolve gateway.config.ecu = .ok target) ∧
    ∀ input tester parameters, gateway.download.state = .awaitingExit →
      Asks gateway input tester (.requestTransferExit parameters) →
      ExitOutcome gateway (gateway.step input).1 := by
  have inspection := reached.inspection verifying
  refine ⟨inspection.isSome_iff, ?_, ?_⟩
  · intro header kept
    exact inspection.accepts_of_inspected kept
  · intro input tester parameters awaiting asks
    exact inspection.exitOutcome reached.sound verifying awaiting asks

/-- A package with two bytes of payload for the gateway itself. -/
def samplePackage : Octets :=
  Package.build { target := Ecu.gateway, softwareType := .application } [0xAB, 0xCD]

/-- A download of the sample package, up to its exit. -/
def samplePackageDownload : List GatewayInput :=
  [sampleActivation, sampleRequest [0x34, 0x00, 0x11, 0x10, 0x42],
    sampleRequest (0x36 :: 0x01 :: samplePackage)]

theorem inspection_agrees_with_exit_sample :
    ∃ gateway,
      Reaches {} ((Gateway.ofConfig {}).history samplePackageDownload) gateway ∧
        (gateway.download.isActive = true ∧ 64 ≤ gateway.download.received.length) ∧
        ExitOutcome gateway (gateway.step (sampleRequest [0x37])).1 := by
  have reached : Reaches {} ((Gateway.ofConfig {}).history samplePackageDownload)
      ((Gateway.ofConfig {}).run samplePackageDownload).2 :=
    reaches_iff_run.mpr ⟨_, _, rfl, rfl, rfl⟩
  obtain ⟨inspected, -, outcome⟩ := inspection_agrees_with_exit reached rfl
  have asks : Asks ((Gateway.ofConfig {}).run samplePackageDownload).2 (sampleRequest [0x37])
      0x0E00 (.requestTransferExit []) := ⟨rfl, rfl⟩
  exact ⟨_, reached, inspected.mp rfl, outcome _ _ _ rfl asks⟩

end DiagnosticGateway
