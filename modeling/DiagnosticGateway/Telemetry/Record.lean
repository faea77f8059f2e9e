/-
Module: DiagnosticGateway.Telemetry.Record
Purpose: The three kinds of record that control units report.
Main exports:
  TelemetryKind, TelemetryRecord, VciRecord, HealthStatus, HealthRecord, ReadinessRecord
-/
import DiagnosticGateway.Telemetry.Text

/-!
Each kind of record has a fixed width on the wire and begins with the reporting unit's name in
sixteen bytes.
-/

namespace DiagnosticGateway

/-- The kinds of report. -/
inductive TelemetryKind where
  | vci
  | health
  | readiness
deriving DecidableEq

/-- The name of a kind in messages. -/
def TelemetryKind.name : TelemetryKind → String
  | .vci => "VCI"
  | .health => "health"
  | .readiness => "readiness"

/-- A record of fixed width: how it is written, how one is read from the front, and the control
unit that it is about. -/
class TelemetryRecord (Record : Type) where
  kind : TelemetryKind
  width : Nat
  encode : Record → Octets
  take : Octets → Option (Record × Octets)
  ecuId : Record → String

/-- Read a yes-or-no byte; every byte but zero means yes. -/
def Octets.takeFlag (bytes : Octets) : Option (Bool × Octets) :=
  (takeByte bytes).map fun (byte, rest) => (byte != 0, rest)

/-- The byte of a yes or no. -/
def Octets.ofFlag (flag : Bool) : UInt8 := if flag then 1 else 0

/-! ## Vehicle configuration -/

/-- What a control unit says about its versions. -/
structure VciRecord where
  ecuId : String
  swVersion : String
  hwVersion : String
  serial : String
deriving DecidableEq

namespace VciRecord

def encode (record : VciRecord) : Octets :=
  FixedText.write 16 record.ecuId ++
    (FixedText.write 8 record.swVersion ++
      (FixedText.write 8 record.hwVersion ++ FixedText.write 16 record.serial))

def take (bytes : Octets) : Option (VciRecord × Octets) := do
  let (ecuId, bytes) ← FixedText.take 16 bytes
  let (swVersion, bytes) ← FixedText.take 8 bytes
  let (hwVersion, bytes) ← FixedText.take 8 bytes
  let (serial, bytes) ← FixedText.take 16 bytes
  pure
    ({ ecuId := ecuId, swVersion := swVersion, hwVersion := hwVersion, serial := serial }, bytes)

instance : TelemetryRecord VciRecord where
  kind := .vci
  width := 48
  encode := encode
  take := take
  ecuId := ecuId

@[simp] theorem length_encode (record : VciRecord) : record.encode.length = 48 := by
  simp [encode]

end VciRecord

/-! ## Health -/

/-- How well a control unit is. -/
inductive HealthStatus where
  | ok
  | warning
  | error
  | critical
  | unassigned (code : UInt8)
deriving DecidableEq

namespace HealthStatus

/-- The meaning of a code. -/
def ofCode (code : UInt8) : HealthStatus :=
  match code with
  | 0 => .ok
  | 1 => .warning
  | 2 => .error
  | 3 => .critical
  | other => .unassigned other

/-- The code of a meaning. -/
def code : HealthStatus → UInt8
  | .ok => 0
  | .warning => 1
  | .error => 2
  | .critical => 3
  | .unassigned code => code

/-- The name of a status. -/
def name : HealthStatus → String
  | .ok => "Ok"
  | .warning => "Warning"
  | .error => "Error"
  | .critical => "Critical"
  | .unassigned code => s!"Unknown({code})"

/-- No code is lost by giving it a meaning. -/
@[simp] theorem code_ofCode (code : UInt8) : (ofCode code).code = code := by
  unfold ofCode
  split <;> rfl

end HealthStatus

/-- What a control unit says about its health.  The temperature is carried forty degrees up. -/
structure HealthRecord where
  ecuId : String
  status : HealthStatus
  troubleCodes : UInt8
  batteryMillivolts : UInt16
  rawTemperature : UInt8
deriving DecidableEq

namespace HealthRecord

/-- Degrees by which the carried temperature lies above the measured one. -/
def temperatureOffset : Int16 := 40

/-- The temperature in degrees Celsius. -/
def temperature (record : HealthRecord) : Int16 :=
  Int16.ofNat record.rawTemperature.toNat - temperatureOffset

def encode (record : HealthRecord) : Octets :=
  FixedText.write 16 record.ecuId ++
    record.status.code :: record.troubleCodes ::
      (Octets.ofWord16 record.batteryMillivolts ++ [record.rawTemperature, 0, 0, 0])

def take (bytes : Octets) : Option (HealthRecord × Octets) := do
  let (ecuId, bytes) ← FixedText.take 16 bytes
  let (status, bytes) ← Octets.takeByte bytes
  let (troubleCodes, bytes) ← Octets.takeByte bytes
  let (batteryMillivolts, bytes) ← Octets.takeWord16 bytes
  let (rawTemperature, bytes) ← Octets.takeByte bytes
  let (_, bytes) ← Octets.takeBlock 3 bytes
  pure
    ({ ecuId := ecuId
       status := .ofCode status
       troubleCodes := troubleCodes
       batteryMillivolts := batteryMillivolts
       rawTemperature := rawTemperature },
      bytes)

instance : TelemetryRecord HealthRecord where
  kind := .health
  width := 24
  encode := encode
  take := take
  ecuId := ecuId

@[simp] theorem length_encode (record : HealthRecord) : record.encode.length = 24 := by
  simp [encode]

end HealthRecord

/-! ## Update readiness -/

/-- What a control unit says about its readiness for an update. -/
structure ReadinessRecord where
  ecuId : String
  vehicleParked : Bool
  engineOff : Bool
  batteryMillivolts : UInt16
  availableMemoryKb : UInt32
  allDoorsClosed : Bool
  compatible : Bool
  readyForUpdate : Bool
deriving DecidableEq

namespace ReadinessRecord

def encode (record : ReadinessRecord) : Octets :=
  FixedText.write 16 record.ecuId ++
    Octets.ofFlag record.vehicleParked :: Octets.ofFlag record.engineOff ::
      (Octets.ofWord16 record.batteryMillivolts ++
        (Octets.ofWord32 record.availableMemoryKb ++
          [Octets.ofFlag record.allDoorsClosed, Octets.ofFlag record.compatible,
            Octets.ofFlag record.readyForUpdate]))

def take (bytes : Octets) : Option (ReadinessRecord × Octets) := do
  let (ecuId, bytes) ← FixedText.take 16 bytes
  let (vehicleParked, bytes) ← Octets.takeFlag bytes
  let (engineOff, bytes) ← Octets.takeFlag bytes
  let (batteryMillivolts, bytes) ← Octets.takeWord16 bytes
  let (availableMemoryKb, bytes) ← Octets.takeWord32 bytes
  let (allDoorsClosed, bytes) ← Octets.takeFlag bytes
  let (compatible, bytes) ← Octets.takeFlag bytes
  let (readyForUpdate, bytes) ← Octets.takeFlag bytes
  pure
    ({ ecuId := ecuId
       vehicleParked := vehicleParked
       engineOff := engineOff
       batteryMillivolts := batteryMillivolts
       availableMemoryKb := availableMemoryKb
       allDoorsClosed := allDoorsClosed
       compatible := compatible
       readyForUpdate := readyForUpdate },
      bytes)

instance : TelemetryRecord ReadinessRecord where
  kind := .readiness
  width := 27
  encode := encode
  take := take
  ecuId := ecuId

@[simp] theorem length_encode (record : ReadinessRecord) : record.encode.length = 27 := by
  simp [encode]

end ReadinessRecord

end DiagnosticGateway
