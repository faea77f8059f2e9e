/-
Module: DiagnosticGateway.Text.Hex
Purpose: Numbers as upper-case hexadecimal text of a fixed width.
Main exports:
  Hex.digit, Hex.digits, Hex.byte, Hex.word16, Hex.word32
-/
import DiagnosticGateway.Octets

/-!
Messages name codes and addresses in upper-case hexadecimal, two digits for a byte, four for a
16-bit word and eight for a 32-bit word, with leading zeros kept.
-/

namespace DiagnosticGateway.Hex

/-- The upper-case digit of a value below sixteen. -/
def digit (value : Nat) : Char :=
  if value < 10 then Char.ofNat (48 + value) else Char.ofNat (55 + value)

/-- The lowest `width` digits of a number, most significant first. -/
def digits : Nat → Nat → List Char
  | 0, _ => []
  | width + 1, value => digits width (value / 16) ++ [digit (value % 16)]

@[simp] theorem length_digits (width value : Nat) : (digits width value).length = width := by
  induction width generalizing value with
  | zero => rfl
  | succ width inductionHypothesis => simp [digits, inductionHypothesis]

/-- A byte in two digits. -/
def byte (value : UInt8) : String := String.ofList (digits 2 value.toNat)

/-- A 16-bit word in four digits. -/
def word16 (value : UInt16) : String := String.ofList (digits 4 value.toNat)

/-- A 32-bit word in eight digits. -/
def word32 (value : UInt32) : String := String.ofList (digits 8 value.toNat)

end DiagnosticGateway.Hex
