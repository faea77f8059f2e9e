/-
Module: DiagnosticGateway.Config.Document
Purpose: Settings from a configuration document.
Main exports:
  SettingGroup, GatewayConfig.ofValue?, GatewayConfig.ofDocument, GatewayConfig.ofFile
-/
import DiagnosticGateway.Config.Basic
import DiagnosticGateway.Octets
import DiagnosticGateway.Toml.Document

/-!
A group of settings is a table, or an array of its values in a fixed order.  Settings that are not
given keep their defaults, and what is not known is passed over; a known setting of the wrong type or
out of its range spoils the document.
-/

namespace DiagnosticGateway

/-- The settings of a group, by name or by place. -/
inductive SettingGroup where
  | named (entries : Toml.Entries)
  | listed (values : List Toml.Value)

namespace SettingGroup

/-- The settings that a value gives.  A moment gives none; a single value is no group. -/
def ofValue? : Toml.Value → Option SettingGroup
  | .table _ entries => some (.named entries)
  | .tables elements => some (.listed (elements.map (.table .header)))
  | .array values => some (.listed values)
  | .dateTime _ => some (.named [])
  | _ => none

/-- The value of a setting, if it is given. -/
def find? (group : SettingGroup) (place : Nat) (name : String) : Option Toml.Value :=
  match group with
  | .named entries => entries.lookup name
  | .listed values => values[place]?

/-- Read a setting; one that is not given has its default. -/
def read? {Setting : Type} (group : SettingGroup) (place : Nat) (name : String)
    (ofValue? : Toml.Value → Option Setting) (default : Setting) : Option Setting :=
  match group.find? place name with
  | some value => ofValue? value
  | none => some default

end SettingGroup

/-! ## Single settings -/

namespace Setting

/-- Read a natural number below a bound. -/
def natural? (bound : Nat) : Toml.Value → Option Nat
  | .integer (.ofNat number) => if number < bound then some number else none
  | _ => none

def word8? (value : Toml.Value) : Option UInt8 := (natural? UInt8.size value).map UInt8.ofNat

def word16? (value : Toml.Value) : Option UInt16 := (natural? UInt16.size value).map UInt16.ofNat

def word32? (value : Toml.Value) : Option UInt32 := (natural? UInt32.size value).map UInt32.ofNat

def word64? (value : Toml.Value) : Option UInt64 := (natural? UInt64.size value).map UInt64.ofNat

/-- Read a number of sixteen bits with a sign. -/
def signed16? : Toml.Value → Option Int16
  | .integer number =>
      if Int16.minValue.toInt ≤ number ∧ number ≤ Int16.maxValue.toInt then some (Int16.ofInt number)
      else none
  | _ => none

def flag? : Toml.Value → Option Bool
  | .boolean flag => some flag
  | _ => none

def text? : Toml.Value → Option String
  | .string text => some text
  | _ => none

end Setting

open Setting

/-! ## Groups of settings -/

def AliveCheckSettings.ofValue? (value : Toml.Value) : Option AliveCheckSettings := do
  let group ← SettingGroup.ofValue? value
  let default : AliveCheckSettings := {}
  let intervalMs ← group.read? 0 "alive_check_interval_ms" word64? default.intervalMs
  let timeoutMs ← group.read? 1 "alive_check_timeout_ms" word64? default.timeoutMs
  pure { intervalMs := intervalMs, timeoutMs := timeoutMs }

def FramingSettings.ofValue? (value : Toml.Value) : Option FramingSettings := do
  let group ← SettingGroup.ofValue? value
  let default : FramingSettings := {}
  let maxPayloadLength ← group.read? 0 "max_payload_length" word32? default.maxPayloadLength
  let acknowledge ← group.read? 1 "send_diagnostic_ack" flag? default.acknowledge
  pure { maxPayloadLength := maxPayloadLength, acknowledge := acknowledge }

def DownloadSettings.ofValue? (value : Toml.Value) : Option DownloadSettings := do
  let group ← SettingGroup.ofValue? value
  let default : DownloadSettings := {}
  let maxBlockLength ← group.read? 0 "max_block_length" word16? default.limits.maxBlockLength
  let flashBase ← group.read? 1 "flash_base" word32? default.limits.flashBase
  let flashSize ← group.read? 2 "flash_size" word32? default.limits.flashSize
  let verifyPackage ← group.read? 3 "verify_package" flag? default.verifyPackage
  pure
    { limits :=
        { maxBlockLength := maxBlockLength, flashBase := flashBase, flashSize := flashSize }
      verifyPackage := verifyPackage }

def VciRecord.ofValue? (default : VciRecord) (value : Toml.Value) : Option VciRecord := do
  let group ← SettingGroup.ofValue? value
  let ecuId ← group.read? 0 "ecu_id" text? default.ecuId
  let swVersion ← group.read? 1 "sw_version" text? default.swVersion
  let hwVersion ← group.read? 2 "hw_version" text? default.hwVersion
  let serial ← group.read? 3 "serial" text? default.serial
  pure { ecuId := ecuId, swVersion := swVersion, hwVersion := hwVersion, serial := serial }

def HealthSettings.ofValue? (value : Toml.Value) : Option HealthSettings := do
  let group ← SettingGroup.ofValue? value
  let default : HealthSettings := {}
  let status ← group.read? 0 "status" word8? default.status
  let troubleCodes ← group.read? 1 "dtc_count" word8? default.troubleCodes
  let batteryMillivolts ← group.read? 2 "battery_mv" word16? default.batteryMillivolts
  let temperature ← group.read? 3 "temperature_c" signed16? default.temperature
  pure
    { status := status
      troubleCodes := troubleCodes
      batteryMillivolts := batteryMillivolts
      temperature := temperature }

def ReadinessSettings.ofValue? (value : Toml.Value) : Option ReadinessSettings := do
  let group ← SettingGroup.ofValue? value
  let default : ReadinessSettings := {}
  let vehicleParked ← group.read? 0 "vehicle_parked" flag? default.vehicleParked
  let engineOff ← group.read? 1 "engine_off" flag? default.engineOff
  let availableMemoryKb ← group.read? 2 "available_memory_kb" word32? default.availableMemoryKb
  let allDoorsClosed ← group.read? 3 "all_doors_closed" flag? default.allDoorsClosed
  let compatible ← group.read? 4 "compatible" flag? default.compatible
  pure
    { vehicleParked := vehicleParked
      engineOff := engineOff
      availableMemoryKb := availableMemoryKb
      allDoorsClosed := allDoorsClosed
      compatible := compatible }

def Identity.ofValue? (value : Toml.Value) : Option Identity := do
  let group ← SettingGroup.ofValue? value
  let default : Identity := {}
  let vci ← group.read? 0 "vci" (VciRecord.ofValue? default.vci) default.vci
  let health ← group.read? 1 "health" HealthSettings.ofValue? default.health
  let readiness ← group.read? 2 "readiness" ReadinessSettings.ofValue? default.readiness
  pure { vci := vci, health := health, readiness := readiness }

namespace GatewayConfig

/-- Settings from a value, before any check. -/
def ofValue? (value : Toml.Value) : Option GatewayConfig := do
  let group ← SettingGroup.ofValue? value
  let default : GatewayConfig := {}
  let localAddress ← group.read? 0 "local_logical_address" word16? default.localAddress
  let ecu ← group.read? 1 "ecu_id" word16? default.ecu
  let aliveCheck ← group.read? 2 "routing" AliveCheckSettings.ofValue? default.aliveCheck
  let framing ← group.read? 3 "doip" FramingSettings.ofValue? default.framing
  let download ← group.read? 4 "transfer" DownloadSettings.ofValue? default.download
  let identity ← group.read? 5 "identity" Identity.ofValue? default.identity
  pure
    { localAddress := localAddress
      ecu := ecu
      aliveCheck := aliveCheck
      framing := framing
      download := download
      identity := identity }

/-- Settings from a document, checked. -/
def ofDocument (source : String) : Except ConfigFault GatewayConfig :=
  match (Toml.document? source).bind ofValue? with
  | some config => config.validate.map fun _ => config
  | none => .error .malformed

/-- Settings from the bytes of a file, if there is one. -/
def ofFile (bytes : Option Octets) : Except ConfigFault GatewayConfig :=
  match bytes.bind fun bytes => String.fromUTF8? (ByteArray.mk bytes.toArray) with
  | some source => ofDocument source
  | none => .error .unreadable

end GatewayConfig

end DiagnosticGateway
