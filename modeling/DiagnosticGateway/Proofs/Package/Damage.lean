/-
Module: DiagnosticGateway.Proofs.Package.Damage
Purpose: Damage to the payload of a package that verification cannot miss.
Main exports:
  Octets.DamagedWithin, Octets.DamagedWithin.exists_window, Checksum.crc32_ne_of_damage,
  Package.narrow_damage_detected
-/
import DiagnosticGateway.Proofs.Checksum
import DiagnosticGateway.Proofs.Package.Build

/-!
The header of a package holds the checksum of its payload.  Damage behind the header leaves the header
acceptable, so it is up to the checksum to tell; and it does if no more than four neighbouring bytes
are damaged, whatever becomes of them.
-/

namespace DiagnosticGateway

namespace Octets

/-- Bytes were damaged: they are not what they were, but they are as many, and all that have changed
are among the `width` bytes from `start` on. -/
structure DamagedWithin (bytes damaged : Octets) (start width : Nat) : Prop where
  length : damaged.length = bytes.length
  changed : damaged ≠ bytes
  outside : ∀ index, index < start ∨ start + width ≤ index → damaged[index]? = bytes[index]?

namespace DamagedWithin

variable {bytes damaged : Octets} {start width : Nat}

/-- The bytes in front of the damage are as they were. -/
theorem take_eq (damage : DamagedWithin bytes damaged start width) {count : Nat}
    (before : count ≤ start) : damaged.take count = bytes.take count := by
  apply List.ext_getElem?
  intro index
  rw [List.getElem?_take, List.getElem?_take]
  split
  · exact damage.outside index (.inl (by omega))
  · rfl

/-- The bytes behind the damage are as they were. -/
theorem drop_eq (damage : DamagedWithin bytes damaged start width) :
    damaged.drop (start + width) = bytes.drop (start + width) := by
  apply List.ext_getElem?
  intro index
  rw [List.getElem?_drop, List.getElem?_drop]
  exact damage.outside _ (.inr (Nat.le_add_right _ _))

/-- What is damaged is still damaged when intact bytes in front of it are taken away. -/
theorem drop (damage : DamagedWithin bytes damaged start width) {count : Nat}
    (before : count ≤ start) :
    DamagedWithin (bytes.drop count) (damaged.drop count) (start - count) width where
  length := by rw [List.length_drop, List.length_drop, damage.length]
  changed same := by
    apply damage.changed
    rw [← List.take_append_drop count damaged, ← List.take_append_drop count bytes, same,
      damage.take_eq before]
  outside index inside := by
    rw [List.getElem?_drop, List.getElem?_drop]
    exact damage.outside _ (by omega)

/-- Damage exchanges a stretch of the bytes for another one of the same length. -/
theorem exists_window (damage : DamagedWithin bytes damaged start width) :
    ∃ front window other back, bytes = front ++ (window ++ back) ∧
      damaged = front ++ (other ++ back) ∧ window.length ≤ width ∧
      other.length = window.length ∧ window ≠ other := by
  have parts : ∀ all : Octets,
      all = all.take start ++ ((all.drop start).take width ++ all.drop (start + width)) := by
    intro all
    rw [← List.drop_drop, List.take_append_drop, List.take_append_drop]
  have whole := parts damaged
  rw [damage.take_eq (Nat.le_refl start), damage.drop_eq] at whole
  refine ⟨_, _, _, _, parts bytes, whole, List.length_take_le _ _, ?_, ?_⟩
  · rw [List.length_take, List.length_take, List.length_drop, List.length_drop, damage.length]
  · intro same
    rw [← same] at whole
    exact damage.changed (whole.trans (parts bytes).symm)

end DamagedWithin

/-- To exchange a stretch for a different one of the same length is damage. -/
theorem damagedWithin_append {window other : Octets} (sameLength : other.length = window.length)
    (different : window ≠ other) (front back : Octets) :
    DamagedWithin (front ++ (window ++ back)) (front ++ (other ++ back)) front.length
      window.length where
  length := by simp only [List.length_append, sameLength]
  changed same :=
    different (List.append_cancel_right (List.append_cancel_left same)).symm
  outside index inside := by
    rcases inside with before | behind
    · rw [List.getElem?_append_left before, List.getElem?_append_left before]
    · rw [List.getElem?_append_right (by omega), List.getElem?_append_right (by omega),
        List.getElem?_append_right (by omega), List.getElem?_append_right (by omega), sameLength]

end Octets

open Octets (DamagedWithin)

/-- Damage to up to four neighbouring bytes changes the checksum. -/
theorem Checksum.crc32_ne_of_damage {bytes damaged : Octets} {start width : Nat}
    (damage : DamagedWithin bytes damaged start width) (narrow : width ≤ 4) :
    crc32 damaged ≠ crc32 bytes := by
  obtain ⟨front, window, other, back, rfl, rfl, within, sameLength, different⟩ :=
    damage.exists_window
  intro same
  exact different
    ((crc32_narrow_inj (Nat.le_trans within narrow) sameLength front back).mp same.symm)

namespace Package

/-- When up to four neighbouring bytes in the payload of a verified package are damaged, verification
says so: it reports the checksum in the header and another one that it computed. -/
theorem narrow_damage_detected {package damaged : Octets} {header : PackageHeader}
    {start width : Nat} (verified : verify package = .ok header)
    (damage : DamagedWithin package damaged start width) (narrow : width ≤ 4)
    (payload : headerLength ≤ start) :
    ∃ actual, actual ≠ header.payloadChecksum ∧
      verify damaged = .error (.corrupted header.payloadChecksum actual) := by
  obtain ⟨addressable, inspected, checksum⟩ := verify_eq_ok_iff.mp verified
  have whole := (length_of_verify verified).1
  have wholeDamaged : damaged.length = headerLength + header.payloadSize.toNat :=
    damage.length.trans whole
  -- The header is in front of the damage, so it is accepted as before.
  have accepted : inspect damaged (UInt32.ofNat damaged.length) = .ok header := by
    rw [← inspect_take (by omega), damage.take_eq payload, inspect_take (by omega), damage.length]
    exact inspected
  have different : payloadChecksum header damaged ≠ header.payloadChecksum := by
    rw [← checksum, payloadChecksum_of_length wholeDamaged, payloadChecksum_of_length whole]
    exact Checksum.crc32_ne_of_damage (damage.drop payload) narrow
  refine ⟨payloadChecksum header damaged, different, ?_⟩
  rw [verify_of_inspect_ok (by omega) accepted, if_neg different]

/-- The four bytes in the middle of a payload of six are inverted. -/
theorem narrow_damage_detected_sample :
    ∃ package damaged header actual, verify package = .ok header ∧
      DamagedWithin package damaged 65 4 ∧ actual ≠ header.payloadChecksum ∧
      verify damaged = .error (.corrupted header.payloadChecksum actual) := by
  let payload : Octets := [0x10, 0x20, 0x30, 0x40, 0x50, 0x60]
  let front : Octets := (sealedHeader sampleZoneHeader payload).toOctets ++ [0x10]
  have verified : verify (build sampleZoneHeader payload) =
      .ok (sealedHeader sampleZoneHeader payload) :=
    verify_build ⟨rfl, rfl⟩ rfl (by decide) (by decide) (by decide)
  have whole : front ++ ([0x20, 0x30, 0x40, 0x50] ++ [0x60]) = build sampleZoneHeader payload :=
    List.append_assoc _ _ _
  have damage : DamagedWithin (front ++ ([0x20, 0x30, 0x40, 0x50] ++ [0x60]))
      (front ++ ([0xDF, 0xCF, 0xBF, 0xAF] ++ [0x60])) 65 4 :=
    Octets.damagedWithin_append (by rfl) (by decide) front [0x60]
  rw [whole] at damage
  obtain ⟨actual, different, detected⟩ :=
    narrow_damage_detected verified damage (by decide) (by decide)
  exact ⟨_, _, _, actual, verified, damage, different, detected⟩

end Package

end DiagnosticGateway
