/-
Module: DiagnosticGateway.Proofs.Gateway.Staging
Purpose: Where a delivered package is staged, and when it is longer than its slot.
Main exports:
  Reaches.verdict_of_completed, completed_package_staged, Package.appraise_build,
  Upload.events_of_appraised, completed_package_outgrows_slot
-/
import DiagnosticGateway.Proofs.Gateway.Reassembly
import DiagnosticGateway.Proofs.Gateway.Upload
import DiagnosticGateway.Proofs.Package.Build
import DiagnosticGateway.Proofs.Package.Slot

/-!
A delivered package comes with the slot of one control unit.  The payload that a header may announce
is bounded, but the bound has nothing to do with the slots: it is twice the size of a slot.  So a
package can be longer than the slot that it is given, and its end then lies in the slot behind.
-/

namespace DiagnosticGateway

/-! ## The verdict on a delivered image -/

namespace Gateway

variable {gateway : Gateway} {image : DownloadedImage} {package : VerifiedPackage}

/-- An image comes with a package only when it was verified and its target has a slot. -/
theorem of_verdict_some (accepted : gateway.verdict image = .ok (some package)) :
    Package.verify image.data = .ok package.header ∧
      package.header.resolve gateway.config.ecu = .ok (package.disposition, package.slot) := by
  unfold verdict at accepted
  split at accepted
  · cases verified : gateway.verifyPackage image with
    | error fault =>
        rw [verified] at accepted
        cases accepted
    | ok found =>
        rw [verified] at accepted
        cases accepted
        simp only [verifyPackage, bind_eq_ok_iff, pure, Except.pure, Except.ok.injEq] at verified
        obtain ⟨header, whole, ⟨disposition, slot⟩, resolved, rfl⟩ := verified
        exact ⟨whole, resolved⟩
  · cases accepted

/-- The verdict looks at the settings alone. -/
theorem verdict_congr {other : Gateway} (config : other.config = gateway.config) :
    other.verdict image = gateway.verdict image := by
  simp only [verdict, verifyPackage, config]

end Gateway

/-- Every image that was delivered has passed the verdict under the settings of the connection. -/
theorem Reaches.verdict_of_completed {config : GatewayConfig} {history : List Exchange}
    {gateway : Gateway} (reached : Reaches config history gateway) {image : DownloadedImage}
    {package : Option VerifiedPackage}
    (completed : .transferCompleted image package ∈ transferEvents history) :
    (Gateway.ofConfig config).verdict image = .ok package := by
  induction reached with
  | start => cases completed
  | @step history gateway reached input inductionHypothesis =>
      rw [transferEvents_append_singleton] at completed
      rcases List.mem_append.mp completed with before | now
      · exact inductionHypothesis before
      · obtain ⟨-, -, verdict, -⟩ := (downloadStep_step gateway input).exit_of_completed
          (List.mem_filter.mp now).1
        rw [← verdict]
        apply Gateway.verdict_congr
        exact reached.settings.1.symm

/-! ## Uploading what was built -/

/-- A package that is built for a control unit with a slot is appraised. -/
theorem Package.appraise_build {own : UInt16} {header : PackageHeader} {payload : Octets}
    {disposition : Disposition} {slot : StagingSlot} (canonical : header.IsCanonical)
    (magic : header.magic = magicWord) (target : header.target ≠ Ecu.invalid)
    (nonempty : 0 < payload.length) (small : payload.length ≤ maximumPayload.toNat)
    (resolved : header.resolve own = .ok (disposition, slot)) :
    appraise own (build header payload) =
      .ok { header := sealedHeader header payload, disposition := disposition, slot := slot } := by
  have maximum : maximumPayload.toNat = 8388608 := rfl
  have accepted : appraiseHeader own (build header payload) =
      .ok { header := sealedHeader header payload, disposition := disposition, slot := slot } :=
    appraiseHeader_eq_ok_iff.mpr
      ⟨inspect_build canonical magic target nonempty small, resolved⟩
  rw [appraise_of_header_ok accepted, if_pos (payloadChecksum_build (by omega))]

/-- Inputs that make the requests of what is left of an upload, by the sample tester. -/
def sampleClosing : Nat → List Octets → List GatewayInput
  | _, [] => [sampleRequest [0x37]]
  | count, block :: blocks =>
      sampleRequest (0x36 :: Download.blockCounter count :: block) ::
        sampleClosing (count + 1) blocks

/-- A request of the sample tester is the one that its service data spells. -/
theorem request?_sampleRequest (first : UInt8) (rest : Octets) :
    (sampleRequest (first :: rest)).request? =
      DiagnosticMessage.request?
        { source := 0x0E00, target := 0x0100, userData := first :: rest } := by
  have carried : Frame.diagnostic? (DiagnosticMessage.toFrame
      { source := 0x0E00, target := 0x0100, userData := first :: rest }) =
        some { source := 0x0E00, target := 0x0100, userData := first :: rest } :=
    Frame.diagnostic?_eq_some_iff.mpr ⟨rfl, DiagnosticMessage.parse_toOctets⟩
  rw [sampleRequest, GatewayInput.request?, carried]
  rfl

theorem request?_sampleBlock (counter : UInt8) (block : Octets) :
    (sampleRequest (0x36 :: counter :: block)).request? =
      some
        { source := 0x0E00
          target := 0x0100
          request := .transferData counter block } := by
  rw [request?_sampleRequest]
  rfl

namespace Upload

variable {upload : Upload} {gateway target : Gateway}

theorem makes_sampleClosing (tester : upload.tester = 0x0E00)
    (parameters : upload.exitParameters = []) (address : target.localAddress = 0x0100)
    (count : Nat) (blocks : List Octets) :
    upload.Makes target (upload.closing count blocks)
      (gateway.history (sampleClosing count blocks)) := by
  induction blocks generalizing gateway count with
  | nil =>
      rw [sampleClosing, closing, Gateway.history_cons]
      apply makes_cons_iff.mpr
      rw [tester, parameters, address]
      exact ⟨rfl, rfl⟩
  | cons block blocks inductionHypothesis =>
      rw [sampleClosing, closing, Gateway.history_cons]
      apply makes_cons_iff.mpr
      rw [tester, address]
      exact ⟨request?_sampleBlock _ _, inductionHypothesis (count + 1)⟩

end Upload

/-- A history without anything in between. -/
theorem Woven.refl (history : List Exchange) : Woven history history := by
  induction history with
  | nil => exact .done
  | cons exchange history inductionHypothesis => exact .own inductionHypothesis

/-- The sample tester uploads an image that is appraised, and the image is delivered. -/
theorem Upload.events_of_appraised {upload : Upload} {gateway : Gateway} {opening : GatewayInput}
    {package : VerifiedPackage} (fits : upload.Fits gateway) (tester : upload.tester = 0x0E00)
    (parameters : upload.exitParameters = []) (address : gateway.localAddress = 0x0100)
    (asked : opening.request? =
      some
        { source := 0x0E00
          target := 0x0100
          request := .requestDownload upload.dataFormat upload.address upload.size })
    (appraised : Package.appraise gateway.config.ecu upload.image = .ok package) :
    transferEvents (gateway.history (opening :: sampleClosing 0 upload.blocks)) =
      [.transferStarted upload.address upload.size,
        .transferCompleted { address := upload.address, data := upload.image } (some package)] := by
  rw [← tester, ← address] at asked
  obtain ⟨filling, started, -⟩ := Filling.opening fits ⟨asked, fits.owner⟩
  have verdict := filling.run fits rfl (Woven.refl _)
    (makes_sampleClosing tester parameters address 0 upload.blocks)
  rw [Gateway.history_cons, transferEvents_cons, started]
  cases verdict with
  | delivered found granted events =>
      cases appraised.symm.trans found
      rw [events]
      rfl
  | refused refused =>
      rw [appraised] at refused
      cases refused

/-- Settings with the longest blocks that there can be. -/
def wideConfig : GatewayConfig := { download := { limits := { maxBlockLength := 0xFFFF } } }

/-- The upload of a package for the first zone: its header, and then `count` blocks of `length`
zeros. -/
def sampleZoneUpload (count length : Nat) : Upload :=
  { tester := 0x0E00
    dataFormat := 0
    address := 0
    blocks :=
      (Package.sealedHeader sampleZoneHeader (List.replicate (count * length) 0)).toOctets ::
        List.replicate count (List.replicate length 0)
    exitParameters := [] }

/-- The inputs of the upload of a package for the first zone, with the given opening. -/
def sampleZoneInputs (opening : GatewayInput) (count length : Nat) : List GatewayInput :=
  sampleActivation :: opening :: sampleClosing 0 (sampleZoneUpload count length).blocks

section

variable {count length : Nat}

theorem image_sampleZoneUpload :
    (sampleZoneUpload count length).image =
      Package.build sampleZoneHeader (List.replicate (count * length) 0) := by
  simp [Upload.image, sampleZoneUpload, Package.build, List.flatten_replicate_replicate]

theorem length_image_sampleZoneUpload :
    (sampleZoneUpload count length).image.length = 64 + count * length := by
  rw [image_sampleZoneUpload, Package.length_build, List.length_replicate]
  rfl

/-- Every block of the upload is the header or a block of zeros. -/
theorem length_of_mem_sampleZoneUpload {block : Octets}
    (member : block ∈ (sampleZoneUpload count length).blocks) :
    block.length = 64 ∨ block.length = length := by
  rcases List.mem_cons.mp member with rfl | zeros
  · exact .inl (PackageHeader.length_toOctets _)
  · rw [List.eq_of_mem_replicate zeros, List.length_replicate]
    exact .inr rfl

/-- A package for the first zone of at most eight megabytes is delivered with the slot of that
zone. -/
theorem events_sampleZoneInputs {opening : GatewayInput} (several : 0 < count)
    (filled : 0 < length) (short : length ≤ 0xFFFF) (small : count * length ≤ 8388608)
    (asked : opening.request? =
      some
        { source := 0x0E00
          target := 0x0100
          request := .requestDownload 0 0 (UInt32.ofNat (64 + count * length)) }) :
    .transferCompleted { address := 0, data := (sampleZoneUpload count length).image }
        (some
          { header := Package.sealedHeader sampleZoneHeader (List.replicate (count * length) 0)
            disposition := .forward Ecu.zoneOne
            slot := .ofIndex 1 }) ∈
      transferEvents
        ((Gateway.ofConfig wideConfig).history (sampleZoneInputs opening count length)) := by
  have positive : 0 < count * length := Nat.mul_pos several filled
  have size : (sampleZoneUpload count length).image.length = 64 + count * length :=
    length_image_sampleZoneUpload
  let gateway := ((Gateway.ofConfig wideConfig).step sampleActivation).2
  have fits : (sampleZoneUpload count length).Fits gateway := by
    refine ⟨rfl, rfl, rfl, ?_, ?_, Nat.zero_le _, ?_, ?_, ?_⟩
    · omega
    · omega
    · show 0 + _ ≤ 0 + 67108864
      omega
    · intro block member
      rcases length_of_mem_sampleZoneUpload member with header | zeros <;> omega
    · intro block member
      show block.length ≤ 65535
      rcases length_of_mem_sampleZoneUpload member with header | zeros <;> omega
  have appraised : Package.appraise gateway.config.ecu (sampleZoneUpload count length).image =
      .ok
        { header := Package.sealedHeader sampleZoneHeader (List.replicate (count * length) 0)
          disposition := .forward Ecu.zoneOne
          slot := .ofIndex 1 } := by
    rw [image_sampleZoneUpload]
    apply Package.appraise_build ⟨rfl, rfl⟩ rfl (by decide)
    · rwa [List.length_replicate]
    · rwa [List.length_replicate]
    · rfl
  rw [← size] at asked
  have events := Upload.events_of_appraised fits rfl rfl rfl asked appraised
  -- The activation says nothing about downloads, so all events are those of the upload.
  have history : transferEvents
      ((Gateway.ofConfig wideConfig).history (sampleZoneInputs opening count length)) =
        transferEvents
          (gateway.history
            (opening :: sampleClosing 0 (sampleZoneUpload count length).blocks)) := rfl
  rw [history, events]
  exact List.mem_cons_of_mem _ (List.mem_singleton.mpr rfl)

end

/-- The opening of a download of sixty-four bytes and two bytes. -/
def sampleZoneOpening : GatewayInput := sampleRequest [0x34, 0x00, 0x11, 0x00, 0x42]

/-! ## Where packages are staged -/

/-- A delivered package is staged in the slot of its control unit.  It is a header and the announced
payload, of at most eight megabytes.  Its bytes reach into the slot of another control unit exactly
when it is longer than its own slot and that is not the last one. -/
theorem completed_package_staged {config : GatewayConfig} {history : List Exchange}
    {gateway : Gateway} (reached : Reaches config history gateway) {image : DownloadedImage}
    {package : VerifiedPackage}
    (completed : .transferCompleted image (some package) ∈ transferEvents history) :
    Ecu.stagingSlot? (package.header.slotOwner config.ecu) = some package.slot ∧
    image.data.length = 64 + package.header.payloadSize.toNat ∧
    package.header.payloadSize.toNat ≤ 8388608 ∧
    ((∃ ecu other, Ecu.stagingSlot? ecu = some other ∧ other ≠ package.slot ∧
        package.slot.Overlaps image.data.length other) ↔
      package.slot.size.toNat < image.data.length ∧ package.slot ≠ .ofIndex 3) := by
  obtain ⟨verified, resolved⟩ := Gateway.of_verdict_some (reached.verdict_of_completed completed)
  have staged := (PackageHeader.resolve_eq_ok_iff.mp resolved).2
  obtain ⟨length, small⟩ := Package.length_of_verify verified
  exact ⟨staged, length, UInt32.le_iff_toNat_le.mp small, Ecu.exists_overlaps_iff staged⟩

/-- A package of two bytes for the first zone stays in the slot of that zone. -/
theorem completed_package_staged_sample :
    ∃ history gateway package, Reaches wideConfig history gateway ∧
      .transferCompleted { address := 0, data := (sampleZoneUpload 1 2).image } (some package) ∈
        transferEvents history ∧
      ¬∃ ecu other, Ecu.stagingSlot? ecu = some other ∧ other ≠ package.slot ∧
        package.slot.Overlaps (sampleZoneUpload 1 2).image.length other := by
  have reached : Reaches wideConfig _ _ :=
    reaches_iff_run.mpr ⟨_, sampleZoneInputs sampleZoneOpening 1 2, rfl, rfl, rfl⟩
  have asked : sampleZoneOpening.request? =
      some
        { source := 0x0E00
          target := 0x0100
          request := .requestDownload 0 0 (UInt32.ofNat (64 + 1 * 2)) } := by
    rfl
  have completed := events_sampleZoneInputs (by decide) (by decide) (by decide) (by decide) asked
  obtain ⟨-, -, -, reaches⟩ := completed_package_staged reached completed
  refine ⟨_, _, _, reached, completed, fun overlapping => ?_⟩
  have longer := (reaches.mp overlapping).1
  rw [length_image_sampleZoneUpload] at longer
  exact absurd longer (by decide)

/-- The opening of a download of sixty-four bytes and sixty-five times 65535 bytes. -/
def oversizedOpening : GatewayInput :=
  sampleRequest [0x34, 0x00, 0x44, 0x00, 0x00, 0x00, 0x00, 0x00, 0x40, 0xFF, 0xFF]

/-- A package of a little over four megabytes for the first zone is delivered with the slot of that
zone, and its end lies in the slot of the second one. -/
theorem completed_package_outgrows_slot :
    Gateway.start? wideConfig = .ok (Gateway.ofConfig wideConfig) ∧
      wideConfig.download.verifyPackage = true ∧
      ∃ package,
        .transferCompleted { address := 0, data := (sampleZoneUpload 65 65535).image }
          (some package) ∈ transferEvents
            ((Gateway.ofConfig wideConfig).history (sampleZoneInputs oversizedOpening 65 65535)) ∧
        package.slot.size.toNat < (sampleZoneUpload 65 65535).image.length ∧
        Ecu.stagingSlot? Ecu.zoneTwo = some (.ofIndex 2) ∧
        StagingSlot.ofIndex 2 ≠ package.slot ∧
        package.slot.Overlaps (sampleZoneUpload 65 65535).image.length (.ofIndex 2) := by
  have asked : oversizedOpening.request? =
      some
        { source := 0x0E00
          target := 0x0100
          request := .requestDownload 0 0 (UInt32.ofNat (64 + 65 * 65535)) } := by
    rfl
  have completed := events_sampleZoneInputs (by decide) (by decide) (by decide) (by decide) asked
  refine ⟨rfl, rfl, _, completed, ?_, rfl, by decide, ?_⟩
  · rw [length_image_sampleZoneUpload]
    decide
  · rw [length_image_sampleZoneUpload]
    apply (StagingSlot.overlaps_iff (by decide) (by decide) (by decide)).mpr
    decide

end DiagnosticGateway
