/-
Module: DiagnosticGateway.Proofs.Package.Inspection
Purpose: What the inspection of a header and the verification of a package have in common.
Main exports:
  bind_eq_ok_iff, bind_eq_error_iff, PackageHeader.fixedWidth_take, Package.inspect_of_short,
  Package.inspect_take, Package.inspect_eq_ok_iff, Package.verify_of_inspect_ok,
  Package.verify_of_inspect_error, Package.verify_eq_ok_iff
-/
import DiagnosticGateway.Package.Image
import DiagnosticGateway.Proofs.Octets.FixedWidth

/-!
An inspection looks at no byte behind the header, so it comes to the same result on the header alone
as on the whole package.  Verification is that inspection, followed by the checksum.
-/

namespace DiagnosticGateway

open Octets

section

variable {Fault Value Result : Type} {first : Except Fault Value}
  {next : Value → Except Fault Result}

/-- Two checks in a row succeed when both do. -/
theorem bind_eq_ok_iff {result : Result} :
    first >>= next = .ok result ↔ ∃ value, first = .ok value ∧ next value = .ok result := by
  cases first <;> simp [bind, Except.bind]

/-- Two checks in a row fail when the first does, or the second after it. -/
theorem bind_eq_error_iff {fault : Fault} :
    first >>= next = .error fault ↔
      first = .error fault ∨ ∃ value, first = .ok value ∧ next value = .error fault := by
  cases first <;> simp [bind, Except.bind]

end

namespace PackageHeader

theorem fixedWidth_take : FixedWidth Package.headerLength PackageHeader.take := by
  unfold PackageHeader.take Package.headerLength
  refine .bind fixedWidth_takeWord32 fun magic => ?_
  refine .bind fixedWidth_takeWord16 fun target => ?_
  refine .bind fixedWidth_takeByte fun softwareType => ?_
  refine .bind fixedWidth_takeByte fun compression => ?_
  refine .bind fixedWidth_takeWord32 fun payloadSize => ?_
  refine .bind fixedWidth_takeWord32 fun uncompressedSize => ?_
  refine .bind fixedWidth_takeByte fun major => ?_
  refine .bind fixedWidth_takeByte fun minor => ?_
  refine .bind fixedWidth_takeByte fun patch => ?_
  refine .bind fixedWidth_takeByte fun build => ?_
  refine .bind fixedWidth_takeWord32 fun versionTimestamp => ?_
  refine .bind fixedWidth_takeWord32 fun versionSerial => ?_
  refine .bind fixedWidth_takeWord32 fun payloadChecksum => ?_
  refine .bind fixedWidth_takeWord32 fun firstSignature => ?_
  refine .bind fixedWidth_takeWord32 fun secondSignature => ?_
  refine .bind fixedWidth_takeWord32 fun thirdSignature => ?_
  refine .bind fixedWidth_takeWord16 fun source => ?_
  refine .bind fixedWidth_takeWord16 fun hopCount => ?_
  refine .bind fixedWidth_takeWord32 fun sequenceNumber => ?_
  refine .bind (fixedWidth_takeSized 12) fun reserved => ?_
  exact .pure _

theorem parse_of_short {package : Octets} (short : package.length < Package.headerLength) :
    parse package = .error (.tooSmall package.length) := by
  simp [parse, fixedWidth_take.short package short]

/-- The header of a package is read from its front alone. -/
theorem exists_parse {package : Octets} (enough : Package.headerLength ≤ package.length) :
    ∃ header, parse (package.take Package.headerLength) = .ok header ∧
      parse package = .ok header := by
  obtain ⟨header, front, whole⟩ := fixedWidth_take.eq_some_of_le enough
  exact ⟨header, by simp [parse, front], by simp [parse, whole]⟩

theorem validate_eq_ok_iff {header : PackageHeader} :
    header.validate = .ok () ↔
      header.magic = Package.magicWord ∧ 0 < header.payloadSize ∧
        header.payloadSize ≤ Package.maximumPayload ∧ header.target ≠ Ecu.invalid := by
  have positive : 0 < header.payloadSize ↔ header.payloadSize ≠ 0 := UInt32.pos_iff_ne_zero
  unfold validate
  split
  · simp_all
  · split
    · rename_i outside
      rcases outside with zero | above
      · simp_all
      · simp [UInt32.not_le.mpr above]
    · split <;> simp_all

theorem validateTotal_eq_ok_iff {header : PackageHeader} {total : UInt32} :
    header.validateTotal total = .ok () ↔
      Package.headerLength + header.payloadSize.toNat = total.toNat := by
  unfold validateTotal
  split <;> simp_all

end PackageHeader

namespace Package

variable {package : Octets} {total : UInt32} {header : PackageHeader} {fault : PackageFault}

theorem inspect_of_short (short : package.length < headerLength) :
    inspect package total = .error (.tooSmall package.length) := by
  simp only [inspect, PackageHeader.parse_of_short short]
  rfl

/-- An inspection of the whole package finds what an inspection of its front finds. -/
theorem inspect_take (enough : headerLength ≤ package.length) :
    inspect (package.take headerLength) total = inspect package total := by
  obtain ⟨header, front, whole⟩ := PackageHeader.exists_parse enough
  simp only [inspect, front, whole]

/-- A header is accepted when it can be read, its fields pass their checks, and it belongs to a
package of the given size. -/
theorem inspect_eq_ok_iff :
    inspect package total = .ok header ↔
      PackageHeader.parse package = .ok header ∧ header.validate = .ok () ∧
        header.validateTotal total = .ok () := by
  simp only [inspect, bind_eq_ok_iff, pure, Except.pure, Except.ok.injEq]
  constructor
  · rintro ⟨found, parsed, ⟨⟩, valid, ⟨⟩, fitting, rfl⟩
    exact ⟨parsed, valid, fitting⟩
  · rintro ⟨parsed, valid, fitting⟩
    exact ⟨header, parsed, (), valid, (), fitting, rfl⟩

/-- The checksum of the payload that a header describes. -/
def payloadChecksum (header : PackageHeader) (package : Octets) : UInt32 :=
  Checksum.crc32 ((package.drop headerLength).take header.payloadSize.toNat)

/-- The payload that a header describes is all that follows the header, if the package has the length
that the header announces. -/
theorem payloadChecksum_of_length
    (whole : package.length = headerLength + header.payloadSize.toNat) :
    payloadChecksum header package = Checksum.crc32 (package.drop headerLength) := by
  rw [payloadChecksum, List.take_of_length_le]
  rw [List.length_drop, whole]
  omega

theorem verify_of_inspect_error (addressable : package.length ≤ 0xFFFFFFFF)
    (inspected : inspect package (UInt32.ofNat package.length) = .error fault) :
    verify package = .error fault := by
  simp only [verify, Nat.not_lt.mpr addressable, if_false, inspected]
  rfl

/-- A package with an accepted header is refused only for its checksum. -/
theorem verify_of_inspect_ok (addressable : package.length ≤ 0xFFFFFFFF)
    (inspected : inspect package (UInt32.ofNat package.length) = .ok header) :
    verify package =
      if payloadChecksum header package = header.payloadChecksum then .ok header
      else .error (.corrupted header.payloadChecksum (payloadChecksum header package)) := by
  simp only [verify, Nat.not_lt.mpr addressable, if_false, inspected]
  rfl

/-- A package is verified when its header is accepted for its length and its payload has the checksum
in the header. -/
theorem verify_eq_ok_iff :
    verify package = .ok header ↔
      package.length ≤ 0xFFFFFFFF ∧
        inspect package (UInt32.ofNat package.length) = .ok header ∧
        payloadChecksum header package = header.payloadChecksum := by
  by_cases addressable : package.length ≤ 0xFFFFFFFF
  · cases inspected : inspect package (UInt32.ofNat package.length) with
    | error fault => simp [verify_of_inspect_error addressable inspected]
    | ok found =>
        rw [verify_of_inspect_ok addressable inspected]
        constructor
        · intro verified
          split at verified
          · rename_i same
            cases verified
            exact ⟨addressable, rfl, same⟩
          · cases verified
        · rintro ⟨-, same, checksum⟩
          cases same
          rw [if_pos checksum]
  · simp only [verify, Nat.lt_of_not_le addressable, if_true, addressable, false_and, iff_false]
    intro verified
    cases verified

/-- A verified package is its header and the payload that the header announces. -/
theorem length_of_verify (verified : verify package = .ok header) :
    package.length = headerLength + header.payloadSize.toNat ∧
      header.payloadSize ≤ maximumPayload := by
  obtain ⟨addressable, inspected, -⟩ := verify_eq_ok_iff.mp verified
  obtain ⟨-, valid, fitting⟩ := inspect_eq_ok_iff.mp inspected
  have size := PackageHeader.validateTotal_eq_ok_iff.mp fitting
  have represented : (UInt32.ofNat package.length).toNat = package.length := by
    rw [UInt32.toNat_ofNat']
    exact Nat.mod_eq_of_lt (Nat.lt_succ_of_le addressable)
  rw [represented] at size
  exact ⟨size.symm, (PackageHeader.validate_eq_ok_iff.mp valid).2.2.1⟩

end Package

end DiagnosticGateway
