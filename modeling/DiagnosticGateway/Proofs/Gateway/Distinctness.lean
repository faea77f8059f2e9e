/-
Module: DiagnosticGateway.Proofs.Gateway.Distinctness
Purpose: When a tester finds every unit once in a consolidated report.
Main exports:
  TelemetryStore.Shadowed, TelemetryStore.nodup_listed_iff, Gateway.ListsOnceUnless,
  listed_once_unless_shadowed, own_name_listed_twice
-/
import DiagnosticGateway.Proofs.Gateway.Consolidation

/-!
The gateway leaves out a stored record that has its own name as the configuration spells it.  A tester
sees the name as the record's field holds it.  The two differ for a name that is too long, has other
characters than ASCII or ends in NUL; a unit that reports under the shortened name is then listed
behind the gateway's own record as if it were the same unit.
-/

namespace DiagnosticGateway

open TelemetryCodec (carried)
open TelemetryRecord (ecuId)

namespace TelemetryStore

/-- The own name is not legible in a record, and a unit has reported under the name that is found in
its place. -/
def Shadowed (own : String) (names : List String) : Prop :=
  ¬FixedText.Legible 16 own ∧ FixedText.carried 16 own ∈ names

variable {Record : Type} [TelemetryRecord Record]

theorem mem_map_ecuId_others {own : Record} {stored : List Record} {name : String} :
    name ∈ (others own stored).map ecuId ↔ name ∈ stored.map ecuId ∧ name ≠ ecuId own := by
  rw [others, List.mem_map, List.mem_map]
  constructor
  · rintro ⟨record, member, rfl⟩
    obtain ⟨inStore, different⟩ := List.mem_filter.mp member
    exact ⟨⟨record, inStore, rfl⟩, of_decide_eq_true different⟩
  · rintro ⟨⟨record, inStore, rfl⟩, different⟩
    exact ⟨record, List.mem_filter.mpr ⟨inStore, decide_eq_true different⟩, rfl⟩

variable [TelemetryCodec Record]

/-- The units in a consolidated report are distinct exactly if the own name is not shadowed. -/
theorem nodup_listed_iff {stored : List Record} (gathered : Gathered stored) (own : Record) :
    ((carried own :: others own stored).map ecuId).Nodup ↔
      ¬Shadowed (ecuId own) (stored.map ecuId) := by
  have apart : ((others own stored).map ecuId).Nodup :=
    gathered.distinct.sublist (List.filter_sublist.map ecuId)
  have hidden : ecuId (carried own) ∈ (others own stored).map ecuId ↔
      Shadowed (ecuId own) (stored.map ecuId) := by
    rw [mem_map_ecuId_others, TelemetryCodec.ecuId_carried, Shadowed, ne_eq,
      FixedText.carried_eq_iff, and_comm]
  rw [List.map_cons, List.nodup_cons, and_iff_left apart, hidden]

end TelemetryStore

/-- A tester that asks for the data with an identifier is given a whole report, in which every unit is
listed once, unless the exception holds; and then one is listed twice. -/
def Gateway.ListsOnceUnless (Record : Type) [TelemetryRecord Record] (gateway : Gateway)
    (identifier : UInt16) (exception : Prop) : Prop :=
  ∀ input tester, Asks gateway input tester (.readDataByIdentifier identifier) →
    ∃ (report : Octets) (records : List Record),
      (gateway.step input).1.replies = [0x62 :: (Octets.ofWord16 identifier ++ report)] ∧
        Report.Lists report records ∧ ((records.map ecuId).Nodup ↔ ¬exception)

theorem Gateway.TellsRecords.listsOnceUnless {Record : Type} [TelemetryRecord Record]
    [TelemetryCodec Record] {gateway : Gateway} {identifier : UInt16} {own : Record}
    {stored : List Record} (gathered : TelemetryStore.Gathered stored)
    (tells : gateway.TellsRecords identifier (carried own :: TelemetryStore.others own stored)) :
    gateway.ListsOnceUnless Record identifier
      (TelemetryStore.Shadowed (ecuId own) (stored.map ecuId)) := by
  intro input tester asks
  obtain ⟨report, replies, lists⟩ := tells input tester asks
  exact ⟨report, _, replies, lists, TelemetryStore.nodup_listed_iff gathered own⟩

/-- Each unit is listed once in the reports of configurations and of health, whatever other units have
reported and whatever the gateway is called, unless its name does not fit the field and another unit
goes by what is left of it. -/
theorem listed_once_unless_shadowed {config : GatewayConfig} {history : List Exchange}
    {gateway : Gateway} (reached : Reaches config history gateway) :
    gateway.ListsOnceUnless VciRecord 0xF195
        (TelemetryStore.Shadowed config.identity.vci.ecuId (gateway.telemetry.vci.map ecuId)) ∧
      gateway.ListsOnceUnless HealthRecord 0xF1A1
        (TelemetryStore.Shadowed config.identity.vci.ecuId
          (gateway.telemetry.health.map ecuId)) :=
  ⟨reached.tellsVci.listsOnceUnless reached.gathered.vci,
    reached.tellsHealth.listsOnceUnless reached.gathered.health⟩

/-- A gateway whose name has a letter more than fits. -/
def sampleLongNamed : GatewayConfig :=
  { identity := { vci := { ({} : Identity).vci with ecuId := "ABCDEFGHIJKLMNOPQ" } } }

theorem listed_once_unless_shadowed_sample :
    let gateway := ((Gateway.ofConfig sampleLongNamed).run
      [sampleActivation, sampleReport [sampleVci "A" "1"]]).2
    (∃ history, Reaches sampleLongNamed history gateway) ∧
      ∃ (report : Octets) (records : List VciRecord),
        (gateway.step (sampleRequest [0x22, 0xF1, 0x95])).1.replies =
            [0x62 :: 0xF1 :: 0x95 :: report] ∧
          Report.Lists report records ∧ (records.map ecuId).Nodup := by
  intro gateway
  have reached : Reaches sampleLongNamed _ gateway := reaches_iff_run.mpr ⟨_, _, rfl, rfl, rfl⟩
  have asks : Asks gateway (sampleRequest [0x22, 0xF1, 0x95]) 0x0E00
      (.readDataByIdentifier 0xF195) := ⟨by decide, by decide⟩
  have stored : gateway.telemetry.vci.map ecuId = ["A"] := by decide
  have visible : ¬TelemetryStore.Shadowed sampleLongNamed.identity.vci.ecuId
      (gateway.telemetry.vci.map ecuId) := by
    rw [stored]
    rintro ⟨-, member⟩
    exact absurd member (by decide)
  obtain ⟨report, records, replies, lists, distinct⟩ :=
    (listed_once_unless_shadowed reached).1 _ _ asks
  exact ⟨⟨_, reached⟩, report, records, replies, lists, distinct.mpr visible⟩

/-- The gateway's own name is cut in its record, and the unit that goes by the name without its last
letter is listed behind it. -/
theorem own_name_listed_twice :
    let gateway := ((Gateway.ofConfig sampleLongNamed).run
      [sampleActivation, sampleReport [sampleVci "ABCDEFGHIJKLMNOP" "1"]]).2
    (∃ history, Reaches sampleLongNamed history gateway) ∧
      ∃ (report : Octets) (records : List VciRecord),
        (gateway.step (sampleRequest [0x22, 0xF1, 0x95])).1.replies =
            [0x62 :: 0xF1 :: 0x95 :: report] ∧
          Report.Lists report records ∧
          records.map ecuId = ["ABCDEFGHIJKLMNOP", "ABCDEFGHIJKLMNOP"] := by
  intro gateway
  have reached : Reaches sampleLongNamed _ gateway := reaches_iff_run.mpr ⟨_, _, rfl, rfl, rfl⟩
  have asks : Asks gateway (sampleRequest [0x22, 0xF1, 0x95]) 0x0E00
      (.readDataByIdentifier 0xF195) := ⟨by decide, by decide⟩
  obtain ⟨report, replies, lists⟩ := reached.tellsVci _ _ asks
  exact ⟨⟨_, reached⟩, report, _, replies, lists, by decide⟩

end DiagnosticGateway
