/-
Module: DiagnosticGateway.Proofs.Gateway.Appraisal
Purpose: The verdict on an image as a function of the image.
Main exports:
  Package.appraiseHeader, Package.appraise, PackageFault.failure,
  Gateway.inspectPackage_of_front, Gateway.verdict_of_appraised
-/
import DiagnosticGateway.Proofs.Gateway.Inspection

/-!
A gateway comes to its verdict in two places: at the block that completes the header, and at the
exit.  `Package.appraise` is the same verdict on the whole image.  What each of the two places finds
is read from it, however the image was cut into blocks.
-/

namespace DiagnosticGateway

namespace Package

/-- The part of the verdict on an image that its header decides. -/
def appraiseHeader (own : UInt16) (image : Octets) : Except PackageFault VerifiedPackage := do
  let header ← inspect image (UInt32.ofNat image.length)
  let (disposition, slot) ← header.resolve own
  pure { header := header, disposition := disposition, slot := slot }

/-- The verdict on an image: its header, then its target, then the checksum of its payload. -/
def appraise (own : UInt16) (image : Octets) : Except PackageFault VerifiedPackage := do
  let package ← appraiseHeader own image
  if payloadChecksum package.header image = package.header.payloadChecksum then pure package
  else throw (.corrupted package.header.payloadChecksum (payloadChecksum package.header image))

variable {own : UInt16} {image : Octets} {package : VerifiedPackage} {fault : PackageFault}

theorem appraiseHeader_eq_ok_iff :
    appraiseHeader own image = .ok package ↔
      inspect image (UInt32.ofNat image.length) = .ok package.header ∧
        package.header.resolve own = .ok (package.disposition, package.slot) := by
  simp only [appraiseHeader, bind_eq_ok_iff, pure, Except.pure, Except.ok.injEq]
  constructor
  · rintro ⟨header, inspected, ⟨disposition, slot⟩, resolved, rfl⟩
    exact ⟨inspected, resolved⟩
  · rintro ⟨inspected, resolved⟩
    exact ⟨package.header, inspected, _, resolved, rfl⟩

theorem appraise_of_header_error (refused : appraiseHeader own image = .error fault) :
    appraise own image = .error fault := by
  simp only [appraise, refused]
  rfl

theorem appraise_of_header_ok (accepted : appraiseHeader own image = .ok package) :
    appraise own image =
      if payloadChecksum package.header image = package.header.payloadChecksum then .ok package
      else .error (.corrupted package.header.payloadChecksum
        (payloadChecksum package.header image)) := by
  simp only [appraise, accepted]
  rfl

/-- The header of an appraised package is the one that verification finds. -/
theorem verify_of_appraise_ok (addressable : image.length ≤ 0xFFFFFFFF)
    (appraised : appraise own image = .ok package) : verify image = .ok package.header := by
  cases header : appraiseHeader own image with
  | error fault =>
      rw [appraise_of_header_error header] at appraised
      cases appraised
  | ok found =>
      rw [appraise_of_header_ok header] at appraised
      have inspected := (appraiseHeader_eq_ok_iff.mp header).1
      rw [verify_of_inspect_ok addressable inspected]
      split at appraised
      · rename_i same
        cases appraised
        rw [if_pos same]
      · cases appraised

end Package

/-- How a fault of an image is reported: one that the header shows, as the fault of a block; one
that needs the whole image, as that of the package. -/
def PackageFault.failure (fault : PackageFault) : GatewayFault :=
  match fault with
  | .wrongMagic _ | .payloadSizeOutOfRange _ | .invalidTarget | .sizeMismatch _ _
  | .unknownTarget _ => .download (.package fault)
  | .tooSmall _ | .beyondAddressing | .corrupted _ _ => .package fault

@[simp] theorem PackageFault.code_failure (fault : PackageFault) :
    fault.failure.code = fault.code := by
  cases fault <;> rfl

namespace Package

variable {own : UInt16} {image : Octets} {fault : PackageFault}

/-- What an inspection finds in a whole header is reported as the fault of a block. -/
theorem failure_of_inspect {total : UInt32} (whole : headerLength ≤ image.length)
    (refused : inspect image total = .error fault) :
    fault.failure = .download (.package fault) := by
  obtain ⟨header, -, parsed⟩ := PackageHeader.exists_parse whole
  simp only [inspect, bind_eq_error_iff, parsed, reduceCtorEq, false_or, Except.ok.injEq,
    exists_eq_left', pure, Except.pure, and_false, exists_false, or_false] at refused
  rcases refused with invalid | ⟨-, -, mismatch⟩
  · unfold PackageHeader.validate at invalid
    split at invalid
    · cases invalid
      rfl
    split at invalid
    · cases invalid
      rfl
    split at invalid
    · cases invalid
      rfl
    · cases invalid
  · unfold PackageHeader.validateTotal at mismatch
    split at mismatch
    · cases mismatch
    · cases mismatch
      rfl

theorem failure_of_resolve {header : PackageHeader}
    (refused : header.resolve own = .error fault) :
    fault.failure = .download (.package fault) := by
  unfold PackageHeader.resolve at refused
  dsimp only at refused
  split at refused
  · cases refused
  · cases refused
    rfl

theorem failure_of_appraiseHeader (whole : headerLength ≤ image.length)
    (refused : appraiseHeader own image = .error fault) :
    fault.failure = .download (.package fault) := by
  simp only [appraiseHeader, bind_eq_error_iff, pure, Except.pure, reduceCtorEq, and_false,
    exists_false, or_false] at refused
  rcases refused with inspected | ⟨header, -, resolved⟩
  · exact failure_of_inspect whole inspected
  · exact failure_of_resolve resolved

/-- What only the whole image shows is reported as the fault of a package. -/
theorem failure_of_appraise {package : VerifiedPackage}
    (accepted : appraiseHeader own image = .ok package)
    (refused : appraise own image = .error fault) : fault.failure = .package fault := by
  rw [appraise_of_header_ok accepted] at refused
  split at refused
  · cases refused
  · cases refused
    rfl

theorem appraise_of_short (short : image.length < headerLength) :
    appraise own image = .error (.tooSmall image.length) := by
  apply appraise_of_header_error
  simp only [appraiseHeader, inspect_of_short short]
  rfl

end Package

/-! ## The two places -/

namespace Gateway

variable {gateway : Gateway}

/-- An inspection that sees the front of an image finds what the header of the image decides. -/
theorem inspectPackage_of_front {image back : Octets}
    (front : gateway.download.received ++ back = image)
    (size : gateway.download.total = UInt32.ofNat image.length)
    (whole : Package.headerLength ≤ gateway.download.received.length) :
    gateway.inspectPackage =
      (Package.appraiseHeader gateway.config.ecu image).map VerifiedPackage.header := by
  have enough : Package.headerLength ≤ image.length := by
    rw [← front, List.length_append]
    omega
  have same : gateway.download.received.take Package.headerLength =
      image.take Package.headerLength := by
    rw [← front, List.take_append_of_le_length whole]
  rw [inspectPackage, same, size, Package.inspect_take enough, Package.appraiseHeader]
  cases Package.inspect image (UInt32.ofNat image.length) with
  | error fault => rfl
  | ok header =>
      cases resolved : header.resolve gateway.config.ecu with
      | error fault =>
          simp only [bind, Except.bind, resolved]
          rfl
      | ok target =>
          simp only [bind, Except.bind, resolved]
          rfl

/-- The exit of a download whose header is in order comes to the verdict on the image. -/
theorem verdict_of_appraised {image : DownloadedImage} {package : VerifiedPackage}
    (verifying : gateway.config.download.verifyPackage = true)
    (addressable : image.data.length ≤ 0xFFFFFFFF)
    (accepted : Package.appraiseHeader gateway.config.ecu image.data = .ok package) :
    gateway.verdict image = (Package.appraise gateway.config.ecu image.data).map some := by
  obtain ⟨inspected, resolved⟩ := Package.appraiseHeader_eq_ok_iff.mp accepted
  rw [verdict_of_accepted verifying addressable inspected resolved,
    Package.appraise_of_header_ok accepted]
  split
  · rfl
  · rfl

/-- A block is refused for its header only when it completes one that an inspection refuses. -/
theorem inspectPackage_of_refused {download : Download} {fault : PackageFault}
    (refused : gateway.inspectionAfter download = .error fault) :
    Package.headerLength ≤ download.received.length ∧
      { gateway with download := download }.inspectPackage = .error fault := by
  unfold inspectionAfter at refused
  split at refused
  · rename_i due
    simp only [inspectionDue, Bool.and_eq_true, decide_eq_true_eq] at due
    cases found : { gateway with download := download }.inspectPackage with
    | ok header =>
        rw [found] at refused
        cases refused
    | error reason =>
        rw [found] at refused
        cases refused
        exact ⟨due.2, rfl⟩
  · cases refused

end Gateway

/-- A gateway that has received an image comes to the verdict on that image, and has left only what
the whole image shows to be found. -/
theorem Inspection.verdict_eq_appraise {gateway : Gateway} {image : Octets}
    (inspection : Inspection gateway) (address : UInt32)
    (verifying : gateway.config.download.verifyPackage = true)
    (active : gateway.download.isActive = true) (received : gateway.download.received = image)
    (size : gateway.download.total = UInt32.ofNat image.length)
    (addressable : image.length ≤ 0xFFFFFFFF) :
    gateway.verdict { address := address, data := image } =
        (Package.appraise gateway.config.ecu image).map some ∧
      ∀ fault, Package.appraise gateway.config.ecu image = .error fault →
        fault.failure = .package fault := by
  cases inspection with
  | missing _ early =>
      have short := early active
      rw [received] at short
      have appraised : Package.appraise gateway.config.ecu image = _ :=
        Package.appraise_of_short short
      rw [Gateway.verdict_of_short verifying short, appraised]
      refine ⟨rfl, ?_⟩
      intro fault same
      cases same
      rfl
  | accepted _ _ whole accepted =>
      have found := Gateway.inspectPackage_of_front ((List.append_nil _).trans received) size whole
      rw [accepted] at found
      cases header : Package.appraiseHeader gateway.config.ecu image with
      | error fault =>
          rw [header] at found
          cases found
      | ok package =>
          refine ⟨Gateway.verdict_of_appraised verifying addressable header, ?_⟩
          intro fault refused
          exact Package.failure_of_appraise header refused

end DiagnosticGateway
