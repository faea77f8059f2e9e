/-
Module: DiagnosticGateway.Package.Ecu
Purpose: The control units that packages are addressed to, and their staging slots.
Main exports:
  Ecu, Ecu.name, StagingSlot, Ecu.stagingSlot?
-/
import DiagnosticGateway.Octets

namespace DiagnosticGateway

namespace Ecu

/-- No control unit. -/
abbrev invalid : UInt16 := 0x0000
abbrev zoneOne : UInt16 := 0x0011
abbrev zoneTwo : UInt16 := 0x0012
abbrev zoneThree : UInt16 := 0x0013
abbrev gateway : UInt16 := 0x0091
/-- Every control unit. -/
abbrev broadcast : UInt16 := 0xFFFF

/-- The name of a control unit for people. -/
def name (ecu : UInt16) : String :=
  if ecu = gateway then "ECU_091 (ZGW)"
  else if ecu = zoneOne then "ECU_011 (Zone 1)"
  else if ecu = zoneTwo then "ECU_012 (Zone 2)"
  else if ecu = zoneThree then "ECU_013 (Zone 3)"
  else if ecu = broadcast then "BROADCAST (All)"
  else "UNKNOWN"

end Ecu

/-- A stretch of the staging flash. -/
structure StagingSlot where
  start : UInt32
  size : UInt32
deriving DecidableEq

namespace StagingSlot

/-- Bytes in every slot. -/
def slotSize : UInt32 := 0x00400000

/-- The slot of the given number; slots lie one behind the other. -/
def ofIndex (index : UInt32) : StagingSlot := { start := index * slotSize, size := slotSize }

end StagingSlot

/-- The slot in which packages for a control unit are staged, if it has one. -/
def Ecu.stagingSlot? (ecu : UInt16) : Option StagingSlot :=
  if ecu = gateway then some (.ofIndex 0)
  else if ecu = zoneOne then some (.ofIndex 1)
  else if ecu = zoneTwo then some (.ofIndex 2)
  else if ecu = zoneThree then some (.ofIndex 3)
  else none

end DiagnosticGateway
