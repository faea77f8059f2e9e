/-
Module: DiagnosticGateway.Proofs.Checksum
Purpose: What the checksum cannot miss.
Main exports:
  Checksum.shift_xor, Checksum.shift_injective, Checksum.littleEndian,
  Checksum.foldl_feed_narrow, Checksum.crc32_narrow_inj
-/
import DiagnosticGateway.Checksum
import Mathlib.Algebra.Group.Nat.Defs
import Mathlib.Logic.Function.Iterate

/-!
A shift of the register is linear in exclusive or, and it loses nothing: the polynomial has the top
bit, which no other shift sets, so the bit that fell out can be told from the result.  Bytes that fit
into the register together can be taken at once, in front of all their shifts
(`foldl_feed_narrow`).  So up to four bytes leave different registers if they are different, and
whatever follows keeps the registers apart.
-/

namespace DiagnosticGateway.Checksum

/-! ## One shift -/

theorem toNat_shiftRight_one (register : UInt32) : (register >>> 1).toNat = register.toNat / 2 :=
  UInt32.toNat_shiftRight register 1

theorem shift_eq (register : UInt32) :
    shift register =
      (register >>> 1) ^^^ (if register.toNat.testBit 0 then polynomial else 0) := by
  have low : register &&& 1 = 1 ↔ register.toNat.testBit 0 = true := by
    rw [← UInt32.toNat_inj, UInt32.toNat_and, Nat.testBit_zero, decide_eq_true_iff]
    exact iff_of_eq (congrArg (· = 1) (Nat.and_one_is_mod _))
  unfold shift
  by_cases fallsOut : register.toNat.testBit 0 = true
  · rw [if_pos (low.mpr fallsOut), if_pos fallsOut]
  · rw [if_neg (mt low.mp fallsOut), if_neg fallsOut, UInt32.xor_zero]

/-- A shift is linear in exclusive or. -/
theorem shift_xor (first second : UInt32) :
    shift (first ^^^ second) = shift first ^^^ shift second := by
  simp only [shift_eq, UInt32.toNat_xor, Nat.testBit_xor, UInt32.shiftRight_xor]
  cases first.toNat.testBit 0 <;> cases second.toNat.testBit 0
  · simp
  · simp [UInt32.xor_assoc]
  · simp only [Bool.xor_false, if_true, Bool.false_eq_true, if_false, UInt32.xor_zero]
    ac_rfl
  · have cancel : ∀ front back : UInt32,
        front ^^^ polynomial ^^^ (back ^^^ polynomial) = front ^^^ back := by
      intro front back
      rw [UInt32.xor_comm back, UInt32.xor_assoc, ← UInt32.xor_assoc polynomial, UInt32.xor_self,
        UInt32.zero_xor]
    simp [cancel]

/-- Only the empty register is emptied by a shift. -/
theorem shift_eq_zero_iff {register : UInt32} : shift register = 0 ↔ register = 0 := by
  constructor
  · intro emptied
    rw [shift_eq, UInt32.xor_eq_zero_iff, ← UInt32.toNat_inj, toNat_shiftRight_one] at emptied
    have bound := register.toNat_lt
    apply UInt32.toNat_inj.mp
    rw [UInt32.toNat_zero]
    split at emptied
    · -- The polynomial has the top bit, and half of a register has not.
      have top : polynomial.toNat = 0xEDB88320 := rfl
      omega
    · rename_i even
      rw [UInt32.toNat_zero] at emptied
      simp only [Nat.testBit_zero, decide_eq_true_iff] at even
      omega
  · rintro rfl
    rfl

theorem shift_injective : Function.Injective shift := by
  intro first second same
  apply UInt32.xor_eq_zero_iff.mp
  apply shift_eq_zero_iff.mp
  rw [shift_xor, same, UInt32.xor_self]

/-- A shift halves an even register. -/
theorem shift_double {half : Nat} (fits : 2 * half < 2 ^ 32) :
    shift (UInt32.ofNat (2 * half)) = UInt32.ofNat half := by
  have value : (UInt32.ofNat (2 * half)).toNat = 2 * half := by
    rw [UInt32.toNat_ofNat']
    exact Nat.mod_eq_of_lt fits
  have even : (2 * half).testBit 0 = false := by
    rw [Nat.testBit_zero]
    exact decide_eq_false (by omega)
  rw [shift_eq, value, even, if_neg (by simp), UInt32.xor_zero]
  apply UInt32.toNat_inj.mp
  rw [toNat_shiftRight_one, value, UInt32.toNat_ofNat']
  omega

/-! ## Many shifts -/

theorem iterate_shift_xor (count : Nat) (first second : UInt32) :
    shift^[count] (first ^^^ second) = shift^[count] first ^^^ shift^[count] second := by
  induction count generalizing first second with
  | zero => rfl
  | succ count inductionHypothesis =>
      rw [Function.iterate_succ_apply, shift_xor, inductionHypothesis,
        Function.iterate_succ_apply, Function.iterate_succ_apply]

/-- What stands in front of enough zeros is only moved by the shifts. -/
theorem iterate_shift_mul {count number : Nat} (fits : 2 ^ count * number < 2 ^ 32) :
    shift^[count] (UInt32.ofNat (2 ^ count * number)) = UInt32.ofNat number := by
  induction count with
  | zero => simp
  | succ count inductionHypothesis =>
      have double : 2 ^ (count + 1) * number = 2 * (2 ^ count * number) := by
        rw [Nat.pow_succ, Nat.mul_comm (2 ^ count), Nat.mul_assoc]
      rw [double] at fits ⊢
      rw [Function.iterate_succ_apply, shift_double fits]
      exact inductionHypothesis (by omega)

/-! ## Bytes -/

theorem feed_eq (register : UInt32) (byte : UInt8) :
    feed register byte = shift^[8] (register ^^^ byte.toUInt32) := rfl

/-- A byte keeps different registers apart. -/
theorem feed_left_injective (byte : UInt8) : Function.Injective fun register => feed register byte := by
  intro first second same
  have before := (shift_injective.iterate 8) same
  exact (UInt32.xor_left_inj _).mp before

/-- Bytes keep different registers apart. -/
theorem foldl_feed_injective (bytes : Octets) :
    Function.Injective fun register => bytes.foldl feed register := by
  induction bytes with
  | nil => exact fun _ _ same => same
  | cons byte bytes inductionHypothesis =>
      exact fun _ _ same => feed_left_injective byte (inductionHypothesis same)

/-- The number that bytes spell, least significant first. -/
def littleEndian : Octets → Nat
  | [] => 0
  | byte :: bytes => 256 * littleEndian bytes + byte.toNat

theorem littleEndian_lt (bytes : Octets) : littleEndian bytes < 256 ^ bytes.length := by
  induction bytes with
  | nil => exact Nat.one_pos
  | cons byte bytes inductionHypothesis =>
      have bound := byte.toNat_lt
      rw [littleEndian, List.length_cons, Nat.pow_succ]
      omega

theorem littleEndian_inj {first second : Octets} (sameLength : first.length = second.length) :
    littleEndian first = littleEndian second ↔ first = second := by
  constructor
  · intro same
    induction first generalizing second with
    | nil => exact (List.length_eq_zero_iff.mp sameLength.symm).symm
    | cons byte bytes inductionHypothesis =>
        cases second with
        | nil => cases sameLength
        | cons other others =>
            have bound := byte.toNat_lt
            have otherBound := other.toNat_lt
            simp only [littleEndian] at same
            have head : byte = other := UInt8.toNat_inj.mp (by omega)
            have tail := inductionHypothesis (Nat.succ.inj sameLength) (by omega)
            rw [head, tail]
  · rintro rfl
    rfl

/-- A byte behind others is added to them bit by bit. -/
theorem ofNat_littleEndian_cons {byte : UInt8} {bytes : Octets} :
    UInt32.ofNat (littleEndian (byte :: bytes)) =
      byte.toUInt32 ^^^ UInt32.ofNat (2 ^ 8 * littleEndian bytes) := by
  have bound : byte.toNat < 2 ^ 8 := byte.toNat_lt
  have bits : 2 ^ 8 * littleEndian bytes + byte.toNat =
      byte.toNat ^^^ 2 ^ 8 * littleEndian bytes := by
    apply Nat.eq_of_testBit_eq
    intro index
    rw [Nat.testBit_two_pow_mul_add _ bound, Nat.testBit_xor, Nat.testBit_two_pow_mul]
    split
    · rename_i low
      simp [Nat.not_le.mpr low]
    · rename_i high
      have none : byte.toNat.testBit index = false :=
        Nat.testBit_lt_two_pow (Nat.lt_of_lt_of_le bound
          (Nat.pow_le_pow_right (by decide) (Nat.not_lt.mp high)))
      simp [none, Nat.not_lt.mp high]
  rw [littleEndian, show (256 : Nat) = 2 ^ 8 from rfl, bits]
  apply UInt32.toNat_inj.mp
  simp only [UInt32.toNat_xor, UInt32.toNat_ofNat', UInt8.toNat_toUInt32, Nat.xor_mod_two_pow]
  congr 1
  exact Nat.mod_eq_of_lt (Nat.lt_trans bound (by decide))

/-- Up to four bytes can be taken at once, before all their shifts. -/
theorem foldl_feed_narrow {bytes : Octets} (narrow : bytes.length ≤ 4) (register : UInt32) :
    bytes.foldl feed register =
      shift^[8 * bytes.length] (register ^^^ UInt32.ofNat (littleEndian bytes)) := by
  induction bytes generalizing register with
  | nil => exact UInt32.xor_zero.symm
  | cons byte bytes inductionHypothesis =>
      rw [List.length_cons] at narrow
      -- The bytes behind this one leave room for it, so its shifts only move them into place.
      have room : 2 ^ 8 * littleEndian bytes < 2 ^ 32 := by
        have below := littleEndian_lt bytes
        have most : 256 ^ bytes.length ≤ 256 ^ 3 := Nat.pow_le_pow_right (by decide) (by omega)
        omega
      calc (byte :: bytes).foldl feed register
          = shift^[8 * bytes.length]
              (shift^[8] (register ^^^ byte.toUInt32) ^^^ UInt32.ofNat (littleEndian bytes)) := by
            rw [List.foldl_cons, inductionHypothesis (by omega), feed_eq]
        _ = shift^[8 * bytes.length] (shift^[8]
              (register ^^^ byte.toUInt32 ^^^ UInt32.ofNat (2 ^ 8 * littleEndian bytes))) := by
            rw [iterate_shift_xor 8 (register ^^^ byte.toUInt32), iterate_shift_mul room]
        _ = shift^[8 * (byte :: bytes).length]
              (register ^^^ UInt32.ofNat (littleEndian (byte :: bytes))) := by
            rw [← Function.iterate_add_apply, List.length_cons, ofNat_littleEndian_cons,
              UInt32.xor_assoc]
            rfl

/-- Up to four different bytes lead from one register to different ones. -/
theorem foldl_feed_narrow_inj {window other : Octets} (narrow : window.length ≤ 4)
    (sameLength : other.length = window.length) (register : UInt32) :
    window.foldl feed register = other.foldl feed register ↔ window = other := by
  constructor
  · intro same
    rw [foldl_feed_narrow narrow, foldl_feed_narrow (by omega), sameLength] at same
    have numbers := (UInt32.xor_right_inj _).mp (shift_injective.iterate _ same)
    have fits : ∀ bytes : Octets, bytes.length ≤ 4 → littleEndian bytes < 2 ^ 32 := by
      intro bytes few
      have most : 256 ^ bytes.length ≤ 256 ^ 4 := Nat.pow_le_pow_right (by decide) few
      exact Nat.lt_of_lt_of_le (littleEndian_lt bytes) most
    rw [← UInt32.toNat_inj, UInt32.toNat_ofNat', UInt32.toNat_ofNat',
      Nat.mod_eq_of_lt (fits window narrow), Nat.mod_eq_of_lt (fits other (by omega))] at numbers
    exact (littleEndian_inj sameLength.symm).mp numbers
  · rintro rfl
    rfl

/-- Byte strings that differ in a stretch of up to four bytes have different checksums. -/
theorem crc32_narrow_inj {window other : Octets} (narrow : window.length ≤ 4)
    (sameLength : other.length = window.length) (front back : Octets) :
    crc32 (front ++ (window ++ back)) = crc32 (front ++ (other ++ back)) ↔ window = other := by
  constructor
  · intro same
    unfold crc32 at same
    rw [UInt32.xor_left_inj, register_append, register_append, List.foldl_append,
      List.foldl_append] at same
    exact (foldl_feed_narrow_inj narrow sameLength _).mp (foldl_feed_injective back same)
  · rintro rfl
    rfl

end DiagnosticGateway.Checksum
