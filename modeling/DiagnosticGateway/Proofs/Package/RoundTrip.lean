/-
Module: DiagnosticGateway.Proofs.Package.RoundTrip
Purpose: Verification accepts exactly what building produces.
Main exports:
  PackageHeader.canonical_take, PackageHeader.parse_eq_ok_iff, PackageHeader.Announces,
  Package.verify_iff_exists_payload, Package.verify_build_iff, Package.verify_inverts_build
-/
import DiagnosticGateway.Proofs.Package.Build

/-!
A header is read from no other bytes than its own, so the packages that are verified can be described
without the reader: the bytes of a header and a payload that fits it.  Building gives such a package
exactly when the header and the length of the payload allow one.
-/

namespace DiagnosticGateway

open Octets

namespace PackageHeader

variable {header : PackageHeader} {package bytes rest : Octets}

/-! ## Headers -/

/-- A header is read from no other bytes than its own. -/
theorem canonical_take : Canonical [] take toOctets := by
  unfold take
  refine .bind canonical_takeWord32 fun magic => ?_
  refine .bind canonical_takeWord16 fun target => ?_
  refine .bind canonical_takeByte fun softwareType => ?_
  refine .bind canonical_takeByte fun compression => ?_
  refine .bind canonical_takeWord32 fun payloadSize => ?_
  refine .bind canonical_takeWord32 fun uncompressedSize => ?_
  refine .bind canonical_takeByte fun major => ?_
  refine .bind canonical_takeByte fun minor => ?_
  refine .bind canonical_takeByte fun patch => ?_
  refine .bind canonical_takeByte fun build => ?_
  refine .bind canonical_takeWord32 fun versionTimestamp => ?_
  refine .bind canonical_takeWord32 fun versionSerial => ?_
  refine .bind canonical_takeWord32 fun payloadChecksum => ?_
  refine .bind canonical_takeWord32 fun firstSignature => ?_
  refine .bind canonical_takeWord32 fun secondSignature => ?_
  refine .bind canonical_takeWord32 fun thirdSignature => ?_
  refine .bind canonical_takeWord16 fun source => ?_
  refine .bind canonical_takeWord16 fun hopCount => ?_
  refine .bind canonical_takeWord32 fun sequenceNumber => ?_
  refine .bind (canonical_takeSized 12) fun reserved => ?_
  refine .pure ?_
  simp only [toOctets, SoftwareType.code_ofCode, Compression.code_ofCode, List.append_assoc,
    List.nil_append, List.cons_append]

/-- The kinds in a header that was read are the ones that their codes stand for. -/
theorem isCanonical_of_take (taken : take bytes = some (header, rest)) : header.IsCanonical := by
  -- The header with the kinds that the codes stand for has the same bytes, and is read from them.
  let meant : PackageHeader :=
    { header with
      softwareType := .ofCode header.softwareType.code
      compression := .ofCode header.compression.code }
  have canonical : meant.IsCanonical := ⟨by simp [meant], by simp [meant]⟩
  have same : meant.toOctets = header.toOctets := by simp [meant, toOctets]
  have read := reads_toOctets canonical rest
  have written : bytes = header.toOctets ++ rest := canonical_take bytes header rest taken
  rw [same, ← written, taken] at read
  have found : header = meant := congrArg Prod.fst (Option.some.inj read)
  rw [found]
  exact canonical

/-- A header is read exactly from its own bytes, whatever follows them. -/
theorem parse_eq_ok_iff :
    parse package = .ok header ↔
      header.IsCanonical ∧ ∃ rest, package = header.toOctets ++ rest := by
  unfold parse
  constructor
  · intro parsed
    split at parsed
    · rename_i found rest taken
      cases parsed
      exact ⟨isCanonical_of_take taken, rest, canonical_take package header rest taken⟩
    · cases parsed
  · rintro ⟨canonical, rest, rfl⟩
    rw [reads_toOctets canonical rest]

/-! ## Packages -/

/-- What a header says of a package with a payload is true, and it is addressed to a control unit. -/
structure Announces (header : PackageHeader) (payload : Octets) : Prop where
  magic : header.magic = 0x53575047
  target : header.target ≠ 0x0000
  nonempty : 1 ≤ payload.length
  small : payload.length ≤ 8388608
  size : header.payloadSize.toNat = payload.length
  checksum : header.payloadChecksum = Checksum.crc32 payload

/-- A header that a payload fits passes the checks of its fields. -/
theorem Announces.validate {payload : Octets} (announces : header.Announces payload) :
    header.validate = .ok () := by
  have maximum : Package.maximumPayload.toNat = 8388608 := rfl
  obtain ⟨magic, target, nonempty, small, size, -⟩ := announces
  refine validate_eq_ok_iff.mpr ⟨magic, ?_, ?_, target⟩
  · rw [UInt32.lt_iff_toNat_lt, size]
    exact nonempty
  · rw [UInt32.le_iff_toNat_le, size, maximum]
    exact small

end PackageHeader

namespace Package

variable {header found : PackageHeader} {package payload : Octets}

theorem drop_headerLength_append :
    (header.toOctets ++ payload).drop headerLength = payload :=
  List.drop_left' (PackageHeader.length_toOctets header)

/-- The packages that are verified are the bytes of a header and of a payload that fits it. -/
theorem verify_iff_exists_payload :
    verify package = .ok header ↔
      header.IsCanonical ∧
        ∃ payload, package = header.toOctets ++ payload ∧ header.Announces payload := by
  constructor
  · intro verified
    obtain ⟨-, inspected, checksum⟩ := verify_eq_ok_iff.mp verified
    obtain ⟨parsed, valid, -⟩ := inspect_eq_ok_iff.mp inspected
    obtain ⟨canonical, payload, rfl⟩ := PackageHeader.parse_eq_ok_iff.mp parsed
    obtain ⟨magic, nonempty, small, target⟩ := PackageHeader.validate_eq_ok_iff.mp valid
    have whole := (length_of_verify verified).1
    have size : header.payloadSize.toNat = payload.length := by
      rw [List.length_append, PackageHeader.length_toOctets] at whole
      omega
    rw [payloadChecksum_of_length whole, drop_headerLength_append] at checksum
    rw [UInt32.lt_iff_toNat_lt, size] at nonempty
    rw [UInt32.le_iff_toNat_le, size] at small
    exact ⟨canonical, payload, rfl, magic, target, nonempty, small, size, checksum.symm⟩
  · rintro ⟨canonical, payload, rfl, announces⟩
    have small := announces.small
    have whole : (header.toOctets ++ payload).length =
        headerLength + header.payloadSize.toNat := by
      rw [List.length_append, PackageHeader.length_toOctets, announces.size]
    have addressable : (header.toOctets ++ payload).length ≤ 0xFFFFFFFF := by
      rw [whole, announces.size, headerLength]
      omega
    refine verify_eq_ok_iff.mpr ⟨addressable, inspect_eq_ok_iff.mpr
      ⟨PackageHeader.parse_eq_ok_iff.mpr ⟨canonical, payload, rfl⟩, announces.validate, ?_⟩, ?_⟩
    · apply PackageHeader.validateTotal_eq_ok_iff.mpr
      rw [UInt32.toNat_ofNat', Nat.mod_eq_of_lt (by omega), whole]
    · rw [payloadChecksum_of_length whole, drop_headerLength_append, announces.checksum]

/-- Only a payload that a package may hold can be built into one that is verified. -/
theorem verify_build_iff (canonical : header.IsCanonical) :
    verify (build header payload) = .ok found ↔
      (header.magic = 0x53575047 ∧ 1 ≤ payload.length ∧ payload.length ≤ 8388608 ∧
        header.target ≠ 0x0000) ∧ found = sealedHeader header payload := by
  constructor
  · intro verified
    obtain ⟨-, inspected, -⟩ := verify_eq_ok_iff.mp verified
    obtain ⟨parsed, valid, -⟩ := inspect_eq_ok_iff.mp inspected
    rw [parse_build canonical] at parsed
    cases parsed
    obtain ⟨magic, nonempty, small, target⟩ := PackageHeader.validate_eq_ok_iff.mp valid
    -- A payload that is too long for the field is still too long as the largest size.
    have size : (sealedHeader header payload).payloadSize.toNat =
        min payload.length 0xFFFFFFFF := by
      rw [sealedHeader, UInt32.toNat_ofNat']
      omega
    have maximum : maximumPayload.toNat = 8388608 := rfl
    rw [UInt32.lt_iff_toNat_lt, size, UInt32.toNat_zero] at nonempty
    rw [UInt32.le_iff_toNat_le, size, maximum] at small
    exact ⟨⟨magic, by omega, by omega, target⟩, rfl⟩
  · rintro ⟨⟨magic, nonempty, small, target⟩, rfl⟩
    exact verify_build canonical magic target nonempty small

/-- The header of a package that is built keeps all but what it says of the payload. -/
theorem sealedHeader_of_small (small : payload.length ≤ 8388608) :
    sealedHeader header payload =
      { header with
        payloadSize := UInt32.ofNat payload.length
        payloadChecksum := Checksum.crc32 payload
        uncompressedSize :=
          if header.uncompressedSize = 0 then UInt32.ofNat payload.length
          else header.uncompressedSize } := by
  rw [sealedHeader, Nat.min_eq_left (by omega)]

/-- Building and verifying are inverse.  A package that is built is verified exactly when the header
has the magic word and a target, and the payload has between one byte and eight megabytes; the header
that is found is the one it was built with, and tells the length and the checksum of the payload.  And
every package that is verified is the bytes of a header and of a payload that fits it. -/
theorem verify_inverts_build :
    (∀ header payload found, header.IsCanonical →
      (verify (build header payload) = .ok found ↔
        (header.magic = 0x53575047 ∧ 1 ≤ payload.length ∧ payload.length ≤ 8388608 ∧
          header.target ≠ 0x0000) ∧
        found =
          { header with
            payloadSize := UInt32.ofNat payload.length
            payloadChecksum := Checksum.crc32 payload
            uncompressedSize :=
              if header.uncompressedSize = 0 then UInt32.ofNat payload.length
              else header.uncompressedSize })) ∧
    ∀ package header, verify package = .ok header ↔
      header.IsCanonical ∧
        ∃ payload, package = header.toOctets ++ payload ∧ header.Announces payload := by
  refine ⟨?built, fun package header => verify_iff_exists_payload⟩
  case built =>
    intro header payload found canonical
    rw [verify_build_iff canonical]
    constructor
    · rintro ⟨fits, rfl⟩
      exact ⟨fits, sealedHeader_of_small fits.2.2.1⟩
    · rintro ⟨fits, rfl⟩
      exact ⟨fits, (sealedHeader_of_small fits.2.2.1).symm⟩

/-- A package with two bytes of payload is verified, and its header has been filled in with their number
and their checksum; one without payload is not. -/
theorem verify_inverts_build_sample :
    sampleZoneHeader.IsCanonical ∧
      (∃ found, verify (build sampleZoneHeader [0xAB, 0xCD]) = .ok found ∧
        found.payloadSize = 2 ∧ found.uncompressedSize = 2 ∧
        found.payloadChecksum = 0xE9FFC9D0) ∧
      ∀ found, verify (build sampleZoneHeader []) ≠ .ok found := by
  have canonical : sampleZoneHeader.IsCanonical := ⟨rfl, rfl⟩
  have accepted := (verify_inverts_build.1 sampleZoneHeader [0xAB, 0xCD] _ canonical).mpr
    ⟨⟨rfl, by decide, by decide, by decide⟩, rfl⟩
  have checksum : Checksum.crc32 [0xAB, 0xCD] = 0xE9FFC9D0 := by decide +kernel
  refine ⟨canonical, ⟨_, accepted, rfl, rfl, checksum⟩, ?_⟩
  intro found verified
  obtain ⟨⟨-, nonempty, -, -⟩, -⟩ :=
    (verify_inverts_build.1 sampleZoneHeader [] found canonical).mp verified
  exact absurd nonempty (by decide)

end Package

end DiagnosticGateway
