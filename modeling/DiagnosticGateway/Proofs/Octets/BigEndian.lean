/-
Module: DiagnosticGateway.Proofs.Octets.BigEndian
Purpose: Numbers in a given number of bytes.
Main exports:
  Octets.bigEndian, Octets.value_bigEndian, Octets.bigEndian_value, Octets.value_lt
-/
import DiagnosticGateway.Octets
import Mathlib.Algebra.Group.Nat.Defs
import Mathlib.Data.List.Induction

/-!
Where the width of a field stands in the message itself, a number is written in as many bytes as the
message says.  A width is sufficient for the numbers below the power of 256 that it is the exponent
of, and between these numbers and the byte strings of the width nothing is lost either way.
-/

namespace DiagnosticGateway.Octets

/-- A number in `width` bytes, most significant first.  What the width is not sufficient for is
lost. -/
def bigEndian : Nat → Nat → Octets
  | 0, _ => []
  | width + 1, number => bigEndian width (number / 256) ++ [UInt8.ofNat number]

@[simp] theorem length_bigEndian (width number : Nat) : (bigEndian width number).length = width := by
  induction width generalizing number with
  | zero => rfl
  | succ width inductionHypothesis => simp [bigEndian, inductionHypothesis]

/-- A word fills two bytes. -/
theorem bigEndian_toNat (word : UInt16) : bigEndian 2 word.toNat = ofWord16 word := rfl

theorem value_concat (bytes : Octets) (byte : UInt8) :
    value (bytes ++ [byte]) = value bytes * 256 + byte.toNat := by
  simp [value]

/-- A number below the bound of the width is read back. -/
theorem value_bigEndian {width number : Nat} (sufficient : number < 256 ^ width) :
    value (bigEndian width number) = number := by
  induction width generalizing number with
  | zero =>
      have nothing : number = 0 := Nat.lt_one_iff.mp sufficient
      rw [nothing]
      rfl
  | succ width inductionHypothesis =>
      have shorter : number / 256 < 256 ^ width :=
        Nat.div_lt_of_lt_mul (by rwa [Nat.pow_succ'] at sufficient)
      rw [bigEndian, value_concat, inductionHypothesis shorter]
      simp only [UInt8.toNat_ofNat']
      omega

/-- Bytes that are read as a number are written for it again. -/
theorem bigEndian_value (bytes : Octets) : bigEndian bytes.length (value bytes) = bytes := by
  induction bytes using List.reverseRecOn with
  | nil => rfl
  | append_singleton bytes byte inductionHypothesis =>
      have bound := byte.toNat_lt
      have front : (value bytes * 256 + byte.toNat) / 256 = value bytes := by omega
      have last : UInt8.ofNat (value bytes * 256 + byte.toNat) = byte := by
        apply UInt8.toNat_inj.mp
        simp
      rw [value_concat, List.length_append, List.length_singleton, bigEndian, front,
        inductionHypothesis, last]

theorem value_lt (bytes : Octets) : value bytes < 256 ^ bytes.length := by
  induction bytes using List.reverseRecOn with
  | nil => exact Nat.one_pos
  | append_singleton bytes byte inductionHypothesis =>
      have bound := byte.toNat_lt
      rw [value_concat, List.length_append, List.length_singleton, Nat.pow_succ]
      omega

end DiagnosticGateway.Octets
