/-
Module: DiagnosticGateway.Package.Image
Purpose: Whole packages: building, inspecting and verifying them, and where they go.
Main exports:
  Package.build, Package.inspect, Package.verify, Disposition, PackageHeader.resolve
-/
import DiagnosticGateway.Checksum
import DiagnosticGateway.Package.Header

namespace DiagnosticGateway

namespace Package

/-- The header that fits a payload: its sizes and its checksum are those of the payload.  A declared
uncompressed size is kept. -/
def sealedHeader (header : PackageHeader) (payload : Octets) : PackageHeader :=
  let size := UInt32.ofNat (min payload.length 0xFFFFFFFF)
  { header with
    payloadSize := size
    uncompressedSize := if header.uncompressedSize = 0 then size else header.uncompressedSize
    payloadChecksum := Checksum.crc32 payload }

/-- A package: the header that fits the payload, then the payload. -/
def build (header : PackageHeader) (payload : Octets) : Octets :=
  (sealedHeader header payload).toOctets ++ payload

/-- Inspect the header at the front of a package that has `total` bytes in all.  Bytes after the
header need not be there yet. -/
def inspect (front : Octets) (total : UInt32) : Except PackageFault PackageHeader := do
  let header ← PackageHeader.parse front
  header.validate
  header.validateTotal total
  pure header

/-- Verify a whole package: its header, its length and the checksum of its payload. -/
def verify (package : Octets) : Except PackageFault PackageHeader := do
  if 0xFFFFFFFF < package.length then
    throw .beyondAddressing
  let header ← inspect package (UInt32.ofNat package.length)
  let actual := Checksum.crc32 ((package.drop headerLength).take header.payloadSize.toNat)
  if actual = header.payloadChecksum then pure header
  else throw (.corrupted header.payloadChecksum actual)

end Package

/-- What becomes of a verified package. -/
inductive Disposition where
  /-- It is applied on this control unit. -/
  | applyHere
  /-- It is forwarded to another control unit. -/
  | forward (target : UInt16)
deriving DecidableEq

/-- Decide what becomes of a package and where it is staged.  A package for this control unit, or
for all, is staged in the unit's own slot, any other in the slot of its target. -/
def PackageHeader.resolve (header : PackageHeader) (own : UInt16) :
    Except PackageFault (Disposition × StagingSlot) :=
  let (disposition, owner) :=
    if header.isFor own then (Disposition.applyHere, own)
    else (Disposition.forward header.target, header.target)
  match Ecu.stagingSlot? owner with
  | some slot => .ok (disposition, slot)
  | none => .error (.unknownTarget header.target)

end DiagnosticGateway
