/-
Module: DiagnosticGateway.Checksum
Purpose: The 32-bit cyclic redundancy check that guards package payloads.
Main exports:
  Checksum.shift, Checksum.feed, Checksum.crc32
-/
import DiagnosticGateway.Octets

/-!
CRC-32 in its reflected form: polynomial `0xEDB88320`, a register that starts with all bits set, and
all bits of the result inverted.  The register takes one byte at a time into its low end and is then
moved right by eight single-bit shifts.
-/

namespace DiagnosticGateway.Checksum

/-- The reflected polynomial. -/
def polynomial : UInt32 := 0xEDB88320

/-- One single-bit shift: the bit that falls out decides whether the polynomial is added. -/
def shift (register : UInt32) : UInt32 :=
  if register &&& 1 = 1 then (register >>> 1) ^^^ polynomial else register >>> 1

/-- Take one byte into the register. -/
def feed (register : UInt32) (byte : UInt8) : UInt32 :=
  shift (shift (shift (shift (shift (shift (shift (shift (register ^^^ byte.toUInt32))))))))

/-- The register after all bytes, from a register that starts with all bits set. -/
def register (bytes : Octets) : UInt32 := bytes.foldl feed 0xFFFFFFFF

/-- The CRC-32 of a byte string. -/
def crc32 (bytes : Octets) : UInt32 := register bytes ^^^ 0xFFFFFFFF

/-- The check value of the algorithm: the checksum of the digits from one to nine. -/
example : crc32 [0x31, 0x32, 0x33, 0x34, 0x35, 0x36, 0x37, 0x38, 0x39] = 0xCBF43926 := by
  decide +kernel

@[simp] theorem crc32_nil : crc32 [] = 0 := by decide

theorem register_append (front back : Octets) :
    register (front ++ back) = back.foldl feed (register front) := by
  simp [register]

end DiagnosticGateway.Checksum
