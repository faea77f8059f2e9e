/-
Module: DiagnosticGateway.Package.Header
Purpose: The sixty-four bytes in front of every package payload.
Main exports:
  SoftwareType, Compression, SoftwareVersion, PackageHeader, PackageHeader.toOctets,
  PackageHeader.parse
-/
import DiagnosticGateway.Package.Fault

namespace DiagnosticGateway

/-- What kind of software a package holds. -/
inductive SoftwareType where
  | application
  | bootloader
  | calibration
  | configuration
  | unassigned (code : UInt8)
deriving DecidableEq

namespace SoftwareType

/-- The meaning of a code. -/
def ofCode (code : UInt8) : SoftwareType :=
  match code with
  | 0x01 => .application
  | 0x02 => .bootloader
  | 0x03 => .calibration
  | 0x04 => .configuration
  | other => .unassigned other

/-- The code of a meaning. -/
def code : SoftwareType → UInt8
  | .application => 0x01
  | .bootloader => 0x02
  | .calibration => 0x03
  | .configuration => 0x04
  | .unassigned code => code

/-- The name of a kind. -/
def name : SoftwareType → String
  | .application => "Application"
  | .bootloader => "Bootloader"
  | .calibration => "Calibration"
  | .configuration => "Configuration"
  | .unassigned code => s!"Unknown({code})"

/-- No code is lost by giving it a meaning. -/
@[simp] theorem code_ofCode (code : UInt8) : (ofCode code).code = code := by
  unfold ofCode
  split <;> rfl

end SoftwareType

/-- How a payload is packed. -/
inductive Compression where
  | none
  | gzip
  | unassigned (code : UInt8)
deriving DecidableEq

namespace Compression

/-- The meaning of a code. -/
def ofCode (code : UInt8) : Compression :=
  match code with
  | 0x00 => .none
  | 0x01 => .gzip
  | other => .unassigned other

/-- The code of a meaning. -/
def code : Compression → UInt8
  | .none => 0x00
  | .gzip => 0x01
  | .unassigned code => code

/-- The name of a packing. -/
def name : Compression → String
  | .none => "None"
  | .gzip => "Gzip"
  | .unassigned code => s!"Unknown({code})"

/-- No code is lost by giving it a meaning. -/
@[simp] theorem code_ofCode (code : UInt8) : (ofCode code).code = code := by
  unfold ofCode
  split <;> rfl

end Compression

/-- A version in four parts. -/
structure SoftwareVersion where
  major : UInt8 := 0
  minor : UInt8 := 0
  patch : UInt8 := 0
  build : UInt8 := 0
deriving DecidableEq

/-- The text of a version. -/
def SoftwareVersion.text (version : SoftwareVersion) : String :=
  s!"{version.major}.{version.minor}.{version.patch} (build {version.build})"

/-- The fields of a package header, in the order of their bytes.  The signature words and the
reserved block are carried and not interpreted. -/
structure PackageHeader where
  magic : UInt32 := Package.magicWord
  target : UInt16
  softwareType : SoftwareType
  compression : Compression := .none
  payloadSize : UInt32 := 0
  uncompressedSize : UInt32 := 0
  version : SoftwareVersion := {}
  versionTimestamp : UInt32 := 0
  versionSerial : UInt32 := 0
  payloadChecksum : UInt32 := 0
  signature : UInt32 × UInt32 × UInt32 := (0, 0, 0)
  source : UInt16 := Ecu.invalid
  hopCount : UInt16 := 0
  sequenceNumber : UInt32 := 0
  reserved : Octets.Block 12 := .zero 12
deriving DecidableEq

namespace PackageHeader

/-- The bytes of a header. -/
def toOctets (header : PackageHeader) : Octets :=
  Octets.ofWord32 header.magic ++
    (Octets.ofWord16 header.target ++
      header.softwareType.code :: header.compression.code ::
        (Octets.ofWord32 header.payloadSize ++
          (Octets.ofWord32 header.uncompressedSize ++
            header.version.major :: header.version.minor :: header.version.patch ::
              header.version.build ::
                (Octets.ofWord32 header.versionTimestamp ++
                  (Octets.ofWord32 header.versionSerial ++
                    (Octets.ofWord32 header.payloadChecksum ++
                      (Octets.ofWord32 header.signature.1 ++
                        (Octets.ofWord32 header.signature.2.1 ++
                          (Octets.ofWord32 header.signature.2.2 ++
                            (Octets.ofWord16 header.source ++
                              (Octets.ofWord16 header.hopCount ++
                                (Octets.ofWord32 header.sequenceNumber ++
                                  header.reserved.val))))))))))))

/-- Read a header from the front and hand on the bytes after it. -/
def take (bytes : Octets) : Option (PackageHeader × Octets) := do
  let (magic, bytes) ← Octets.takeWord32 bytes
  let (target, bytes) ← Octets.takeWord16 bytes
  let (softwareType, bytes) ← Octets.takeByte bytes
  let (compression, bytes) ← Octets.takeByte bytes
  let (payloadSize, bytes) ← Octets.takeWord32 bytes
  let (uncompressedSize, bytes) ← Octets.takeWord32 bytes
  let (major, bytes) ← Octets.takeByte bytes
  let (minor, bytes) ← Octets.takeByte bytes
  let (patch, bytes) ← Octets.takeByte bytes
  let (build, bytes) ← Octets.takeByte bytes
  let (versionTimestamp, bytes) ← Octets.takeWord32 bytes
  let (versionSerial, bytes) ← Octets.takeWord32 bytes
  let (payloadChecksum, bytes) ← Octets.takeWord32 bytes
  let (firstSignature, bytes) ← Octets.takeWord32 bytes
  let (secondSignature, bytes) ← Octets.takeWord32 bytes
  let (thirdSignature, bytes) ← Octets.takeWord32 bytes
  let (source, bytes) ← Octets.takeWord16 bytes
  let (hopCount, bytes) ← Octets.takeWord16 bytes
  let (sequenceNumber, bytes) ← Octets.takeWord32 bytes
  let (reserved, bytes) ← Octets.takeSized 12 bytes
  pure
    ({ magic := magic
       target := target
       softwareType := .ofCode softwareType
       compression := .ofCode compression
       payloadSize := payloadSize
       uncompressedSize := uncompressedSize
       version := { major := major, minor := minor, patch := patch, build := build }
       versionTimestamp := versionTimestamp
       versionSerial := versionSerial
       payloadChecksum := payloadChecksum
       signature := (firstSignature, secondSignature, thirdSignature)
       source := source
       hopCount := hopCount
       sequenceNumber := sequenceNumber
       reserved := reserved },
      bytes)

/-- Read the header of a package.  The values of its fields are not looked at. -/
def parse (package : Octets) : Except PackageFault PackageHeader :=
  match take package with
  | some (header, _) => .ok header
  | none => .error (.tooSmall package.length)

@[simp] theorem length_toOctets (header : PackageHeader) :
    header.toOctets.length = Package.headerLength := by
  have reserved := header.reserved.property
  simp [toOctets, Package.headerLength, reserved]

/-- The checks that need no payload: magic word, size and target, in this order. -/
def validate (header : PackageHeader) : Except PackageFault Unit :=
  if header.magic ≠ Package.magicWord then .error (.wrongMagic header.magic)
  else if header.payloadSize = 0 ∨ Package.maximumPayload < header.payloadSize then
    .error (.payloadSizeOutOfRange header.payloadSize)
  else if header.target = Ecu.invalid then .error .invalidTarget
  else .ok ()

/-- Whether the header belongs to a package of `total` bytes. -/
def validateTotal (header : PackageHeader) (total : UInt32) : Except PackageFault Unit :=
  if Package.headerLength + header.payloadSize.toNat = total.toNat then .ok ()
  else .error (.sizeMismatch header.payloadSize total)

/-- Whether a package with this header is applied on the control unit `own`. -/
def isFor (header : PackageHeader) (own : UInt16) : Bool :=
  header.target == own || header.target == Ecu.broadcast

end PackageHeader

end DiagnosticGateway
