/-
Module: DiagnosticGateway.Proofs.Package.Build
Purpose: A package that is built is accepted with the header that it was built with.
Main exports:
  PackageHeader.IsCanonical, PackageHeader.reads_toOctets, Package.parse_build,
  Package.inspect_build, Package.payloadChecksum_build, Package.verify_build
-/
import DiagnosticGateway.Proofs.Package.Inspection

/-!
The bytes of a header are read back field by field, whatever follows them.  A kind of software or of
packing that is written with the code of another kind is the only thing that cannot be read back.
-/

namespace DiagnosticGateway

open Octets

namespace PackageHeader

/-- The kinds in a header are the ones that their codes stand for. -/
structure IsCanonical (header : PackageHeader) : Prop where
  softwareType : SoftwareType.ofCode header.softwareType.code = header.softwareType
  compression : Compression.ofCode header.compression.code = header.compression

/-- A header is read back from its bytes, and what follows them is left. -/
theorem reads_toOctets {header : PackageHeader} (canonical : header.IsCanonical) :
    Reads take header.toOctets header := by
  obtain ⟨softwareType, compression⟩ := canonical
  unfold take toOctets
  refine .bind (reads_takeWord32 header.magic) ?_
  refine .bind (reads_takeWord16 header.target) ?_
  refine .cons ?_
  refine .cons ?_
  refine .bind (reads_takeWord32 header.payloadSize) ?_
  refine .bind (reads_takeWord32 header.uncompressedSize) ?_
  refine .cons ?_
  refine .cons ?_
  refine .cons ?_
  refine .cons ?_
  refine .bind (reads_takeWord32 header.versionTimestamp) ?_
  refine .bind (reads_takeWord32 header.versionSerial) ?_
  refine .bind (reads_takeWord32 header.payloadChecksum) ?_
  refine .bind (reads_takeWord32 header.signature.1) ?_
  refine .bind (reads_takeWord32 header.signature.2.1) ?_
  refine .bind (reads_takeWord32 header.signature.2.2) ?_
  refine .bind (reads_takeWord16 header.source) ?_
  refine .bind (reads_takeWord16 header.hopCount) ?_
  refine .bind (reads_takeWord32 header.sequenceNumber) ?_
  intro rest
  dsimp only
  rw [takeSized_append, softwareType, compression]
  rfl

end PackageHeader

namespace Package

variable {header : PackageHeader} {payload : Octets}

theorem toNat_payloadSize_sealedHeader (addressable : payload.length ≤ 0xFFFFFFFF) :
    (sealedHeader header payload).payloadSize.toNat = payload.length := by
  simp only [sealedHeader, Nat.min_eq_left addressable, UInt32.toNat_ofNat']
  exact Nat.mod_eq_of_lt (Nat.lt_succ_of_le addressable)

@[simp] theorem length_build :
    (build header payload).length = headerLength + payload.length := by
  simp [build]

/-- The payload behind the header has the checksum that was put into the header. -/
theorem payloadChecksum_build (addressable : payload.length ≤ 0xFFFFFFFF) :
    payloadChecksum (sealedHeader header payload) (build header payload) =
      (sealedHeader header payload).payloadChecksum := by
  have behind : (build header payload).drop headerLength = payload := by
    rw [build, List.drop_append_of_le_length (by simp), List.drop_of_length_le (by simp),
      List.nil_append]
  rw [payloadChecksum, behind, toNat_payloadSize_sealedHeader addressable, List.take_length]
  rfl

/-- The header that was put in front of the payload is read back. -/
theorem parse_build (canonical : header.IsCanonical) :
    PackageHeader.parse (build header payload) = .ok (sealedHeader header payload) := by
  have unchanged : (sealedHeader header payload).IsCanonical :=
    ⟨canonical.softwareType, canonical.compression⟩
  rw [PackageHeader.parse, build, PackageHeader.reads_toOctets unchanged]

/-- The header of a package that is built for a control unit is accepted. -/
theorem inspect_build (canonical : header.IsCanonical) (magic : header.magic = magicWord)
    (target : header.target ≠ Ecu.invalid) (nonempty : 0 < payload.length)
    (small : payload.length ≤ maximumPayload.toNat) :
    inspect (build header payload) (UInt32.ofNat (build header payload).length) =
      .ok (sealedHeader header payload) := by
  have maximum : maximumPayload.toNat = 8388608 := rfl
  have addressable : payload.length ≤ 0xFFFFFFFF := by omega
  have size : (sealedHeader header payload).payloadSize.toNat = payload.length :=
    toNat_payloadSize_sealedHeader addressable
  apply inspect_eq_ok_iff.mpr
  refine ⟨parse_build canonical, PackageHeader.validate_eq_ok_iff.mpr ⟨magic, ?_, ?_, target⟩,
    PackageHeader.validateTotal_eq_ok_iff.mpr ?_⟩
  · rw [UInt32.lt_iff_toNat_lt, size]
    exact nonempty
  · rw [UInt32.le_iff_toNat_le, size]
    exact small
  · rw [size, length_build, UInt32.toNat_ofNat']
    unfold headerLength
    omega

/-- A package that is built for a control unit is verified. -/
theorem verify_build (canonical : header.IsCanonical) (magic : header.magic = magicWord)
    (target : header.target ≠ Ecu.invalid) (nonempty : 0 < payload.length)
    (small : payload.length ≤ maximumPayload.toNat) :
    verify (build header payload) = .ok (sealedHeader header payload) := by
  have maximum : maximumPayload.toNat = 8388608 := rfl
  have addressable : (build header payload).length ≤ 0xFFFFFFFF := by
    rw [length_build, headerLength]
    omega
  exact verify_eq_ok_iff.mpr
    ⟨addressable, inspect_build canonical magic target nonempty small,
      payloadChecksum_build (by omega)⟩

end Package

/-- The header of a package for the first zone. -/
def sampleZoneHeader : PackageHeader := { target := Ecu.zoneOne, softwareType := .application }

end DiagnosticGateway
