/-
Module: DiagnosticGateway.Config.Basic
Purpose: The settings of a gateway, their defaults and the checks on them.
Main exports:
  GatewayConfig, ConfigFault, GatewayConfig.validate, Identity.vciRecord,
  Identity.healthRecord, Identity.readinessRecord
-/
import DiagnosticGateway.Download
import DiagnosticGateway.Routing
import DiagnosticGateway.Telemetry.Record

/-!
Every setting has a default, and all defaults together make a working gateway.
-/

namespace DiagnosticGateway

/-- How often the peer is asked for a sign of life, and how long it may take. -/
structure AliveCheckSettings where
  intervalMs : UInt64 := 5000
  /-- Zero means that a session never expires. -/
  timeoutMs : UInt64 := 500
deriving DecidableEq

/-- The timeout of a session. -/
def AliveCheckSettings.timeout (settings : AliveCheckSettings) : Option Nat :=
  if settings.timeoutMs = 0 then none else some settings.timeoutMs.toNat

/-- How frames are taken and acknowledged. -/
structure FramingSettings where
  maxPayloadLength : UInt32 := 65536
  /-- Whether a positive acknowledgement goes before the answer to a diagnostic message. -/
  acknowledge : Bool := true
deriving DecidableEq

/-- What downloads may do, and whether they are packages. -/
structure DownloadSettings where
  limits : DownloadLimits := {}
  verifyPackage : Bool := true
deriving DecidableEq

/-- What the gateway says about its health. -/
structure HealthSettings where
  status : UInt8 := 0
  troubleCodes : UInt8 := 0
  batteryMillivolts : UInt16 := 12600
  temperature : Int16 := 25
deriving DecidableEq

/-- What the gateway says about its readiness for an update. -/
structure ReadinessSettings where
  vehicleParked : Bool := true
  engineOff : Bool := true
  availableMemoryKb : UInt32 := 4096
  allDoorsClosed : Bool := true
  compatible : Bool := true
deriving DecidableEq

/-- What the gateway reports about itself. -/
structure Identity where
  vci : VciRecord :=
    { ecuId := "ECU_091", swVersion := "1.0.0", hwVersion := "TC375", serial := "ZGW-0000000001" }
  health : HealthSettings := {}
  readiness : ReadinessSettings := {}
deriving DecidableEq

namespace Identity

/-- The gateway's own configuration record. -/
def vciRecord (identity : Identity) : VciRecord := identity.vci

/-- The gateway's own health record.  A temperature that the record cannot carry is moved to the
nearest one that it can.  The sum is taken in sixteen bits, so above 32727 degrees it wraps around and
the record holds the lowest temperature. -/
def healthRecord (identity : Identity) : HealthRecord :=
  let raised := identity.health.temperature + HealthRecord.temperatureOffset
  { ecuId := identity.vci.ecuId
    status := .ofCode identity.health.status
    troubleCodes := identity.health.troubleCodes
    batteryMillivolts := identity.health.batteryMillivolts
    rawTemperature := UInt8.ofNat (min raised.toNatClampNeg 255) }

/-- The gateway's own readiness record: ready when every condition holds. -/
def readinessRecord (identity : Identity) : ReadinessRecord :=
  let settings := identity.readiness
  { ecuId := identity.vci.ecuId
    vehicleParked := settings.vehicleParked
    engineOff := settings.engineOff
    batteryMillivolts := identity.health.batteryMillivolts
    availableMemoryKb := settings.availableMemoryKb
    allDoorsClosed := settings.allDoorsClosed
    compatible := settings.compatible
    readyForUpdate :=
      settings.vehicleParked && settings.engineOff && settings.allDoorsClosed &&
        settings.compatible }

end Identity

/-- The settings of a gateway. -/
structure GatewayConfig where
  /-- The gateway's logical address. -/
  localAddress : UInt16 := 0x0100
  /-- The control unit that packages for the gateway are addressed to. -/
  ecu : UInt16 := Ecu.gateway
  aliveCheck : AliveCheckSettings := {}
  framing : FramingSettings := {}
  download : DownloadSettings := {}
  identity : Identity := {}
deriving DecidableEq

/-- A setting that must not be zero. -/
inductive ConfigDefect where
  | maxBlockLength
  | aliveCheckInterval
  | flashSize
deriving DecidableEq

/-- Why settings are refused. -/
inductive ConfigFault where
  | invalid (defect : ConfigDefect)
  /-- The settings are not a document, or a value in it has the wrong type. -/
  | malformed
  /-- The settings could not be read as text. -/
  | unreadable
deriving DecidableEq

namespace ConfigFault

/-- The wording of a refusal; what a reader of documents or files has to say is left to it. -/
def message : ConfigFault → Option String
  | .invalid .maxBlockLength => some "Invalid config: transfer.max_block_length must be > 0"
  | .invalid .aliveCheckInterval =>
      some "Invalid config: routing.alive_check_interval_ms must be > 0"
  | .invalid .flashSize => some "Invalid config: transfer.flash_size must be > 0"
  | .malformed | .unreadable => none

end ConfigFault

namespace GatewayConfig

/-- Check the settings that must not be zero. -/
def validate (config : GatewayConfig) : Except ConfigFault Unit :=
  if config.download.limits.maxBlockLength = 0 then .error (.invalid .maxBlockLength)
  else if config.aliveCheck.intervalMs = 0 then .error (.invalid .aliveCheckInterval)
  else if config.download.limits.flashSize = 0 then .error (.invalid .flashSize)
  else .ok ()

/-- Settings that pass the checks. -/
def Valid (config : GatewayConfig) : Prop := config.validate = .ok ()

theorem valid_iff (config : GatewayConfig) :
    config.Valid ↔
      config.download.limits.maxBlockLength ≠ 0 ∧ config.aliveCheck.intervalMs ≠ 0 ∧
        config.download.limits.flashSize ≠ 0 := by
  unfold Valid validate
  split
  · simp_all
  · split
    · simp_all
    · split <;> simp_all

end GatewayConfig

end DiagnosticGateway
