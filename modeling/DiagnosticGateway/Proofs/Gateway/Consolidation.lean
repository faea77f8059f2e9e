/-
Module: DiagnosticGateway.Proofs.Gateway.Consolidation
Purpose: A tester is told of all units that the gateway has records of.
Main exports:
  TelemetryStore.others, Reaches.gathered, Gateway.TellsRecords, Gateway.SendsReport,
  Reaches.tellsRecords, Reaches.sendsReport, consolidated_reports_complete
-/
import DiagnosticGateway.Proofs.Gateway.Collection
import DiagnosticGateway.Proofs.Gateway.OpenDownload
import DiagnosticGateway.Proofs.Gateway.Refusal
import DiagnosticGateway.Proofs.Gateway.Served
import DiagnosticGateway.Proofs.Telemetry.Report

/-!
A consolidated report holds the gateway's own record and one record for each of at most 254 other
units, so that its count byte always reaches.  A tester that reads it finds each of the stored records
as the unit has reported it, and the gateway's own record as far as its fields can hold it.
-/

namespace DiagnosticGateway

open TelemetryCodec (carried)
open TelemetryRecord (ecuId)

/-! ## Stored records -/

section

variable {Record : Type} [TelemetryRecord Record]

/-- The stored records of other units than that of the gateway's own record. -/
def TelemetryStore.others (own : Record) (stored : List Record) : List Record :=
  stored.filter fun record => decide (ecuId record ≠ ecuId own)

theorem TelemetryStore.withOwn_eq (own : Record) (stored : List Record) :
    withOwn own stored = own :: others own stored := by
  have same : ∀ record : Record, (!sameUnit record own) = decide (ecuId record ≠ ecuId own) := by
    intro record
    rw [sameUnit, decide_not]
    rfl
  rw [withOwn, others]
  simp only [same]

variable [TelemetryCodec Record]

/-- The records that a report brings are found unchanged when they are passed on. -/
theorem Report.carried_of_mem_recordsIn {record : Record} {payload : Octets}
    (member : record ∈ recordsIn Record payload) : carried record = record := by
  unfold recordsIn parse at member
  cases payload with
  | nil => cases member
  | cons count body => exact carried_of_mem_takeRecords member

theorem Gateway.carried_of_mem_reported {gateway : Gateway} {input : GatewayInput} {record : Record}
    (member : record ∈ gateway.reported Record input) : carried record = record := by
  cases input with
  | poll | deactivate | reset => cases member
  | frame frame now =>
      rw [reported] at member
      split at member
      · exact Report.carried_of_mem_recordsIn member
      · cases member

/-- A consolidated report is found whole, and the stored records in it unchanged. -/
theorem TelemetryStore.lists_withOwn {stored : List Record} (gathered : Gathered stored) (own : Record) :
    Report.Lists (Report.encode (withOwn own stored)) (carried own :: others own stored) := by
  have fewer : (others own stored).length ≤ stored.length := List.length_filter_le _ _
  have few : (withOwn own stored).length ≤ Report.maximumCount := by
    rw [withOwn_eq, List.length_cons]
    exact Nat.succ_le_succ (Nat.le_trans fewer gathered.bounded)
  have unchanged : (others own stored).map carried = others own stored := by
    conv_rhs => rw [← List.map_id (others own stored)]
    exact List.map_congr_left fun record member =>
      gathered.carried_of_mem record (List.mem_of_mem_filter member)
  have lists := Report.lists_encode few
  rwa [withOwn_eq, List.map_cons, unchanged, ← withOwn_eq] at lists

end

/-- The records that a gateway keeps of each kind sum up records that have come in reports. -/
structure TelemetryStore.AllGathered (store : TelemetryStore) : Prop where
  vci : Gathered store.vci
  health : Gathered store.health
  readiness : Gathered store.readiness

theorem Reaches.gathered {config : GatewayConfig} {history : List Exchange} {gateway : Gateway}
    (reached : Reaches config history gateway) : gateway.telemetry.AllGathered := by
  induction reached with
  | start started =>
      obtain ⟨-, rfl⟩ := Gateway.start?_eq_ok_iff.mp started
      exact ⟨.nil, .nil, .nil⟩
  | @step history gateway reached input inductionHypothesis =>
      by_cases resets : input = .reset
      · rw [resets]
        exact ⟨.nil, .nil, .nil⟩
      · rw [gateway.telemetry_step resets]
        exact
          ⟨inductionHypothesis.vci.merge fun _ => Gateway.carried_of_mem_reported,
            inductionHypothesis.health.merge fun _ => Gateway.carried_of_mem_reported,
            inductionHypothesis.readiness.merge fun _ => Gateway.carried_of_mem_reported⟩

/-! ## Answers -/

theorem Service.isResponseId_readDataByIdentifier : isResponseId readDataByIdentifier = false := by
  decide

theorem Service.isResponseId_routineControl : isResponseId routineControl = false := by
  decide

/-- The payloads of the frames of a kind that are sent, in order. -/
def GatewayOutput.payloads (output : GatewayOutput) (kind : PayloadType) : List Octets :=
  (output.frames.filter fun frame => decide (frame.payloadType = kind)).map Frame.payload

namespace Gateway

/-- A tester that asks for the data with an identifier is given a report of these records. -/
def TellsRecords {Record : Type} [TelemetryRecord Record] (gateway : Gateway) (identifier : UInt16)
    (records : List Record) : Prop :=
  ∀ input tester, Asks gateway input tester (.readDataByIdentifier identifier) →
    ∃ report, (gateway.step input).1.replies = [0x62 :: (Octets.ofWord16 identifier ++ report)] ∧
      Report.Lists report records

/-- Of the two routines on a subject, one sends a report of these records if their collection has
been started, and counts them in its response; the results of both of them have the same count. -/
structure SendsReport {Record : Type} [TelemetryRecord Record] (gateway : Gateway)
    (subject : RoutineSubject) (collect send : UInt16) (kind : PayloadType)
    (records : List Record) : Prop where
  sent : ∀ input tester options, gateway.collecting subject = true →
    Asks gateway input tester (.routineControl 0x01 send options) →
      ∃ count report,
        (gateway.step input).1.replies =
            [0x71 :: 0x01 :: (Octets.ofWord16 send ++ [0x00, count])] ∧
          (gateway.step input).1.payloads kind = [report] ∧
          count.toNat = records.length ∧ Report.Lists report records
  counted : ∀ routine ∈ [collect, send], ∀ input tester options,
    Asks gateway input tester (.routineControl 0x03 routine options) →
      ∃ count,
        (gateway.step input).1.replies =
            [0x71 :: 0x03 :: (Octets.ofWord16 routine ++ [0x00, count])] ∧
          count.toNat = records.length

variable {gateway : Gateway}

/-- Neither an acknowledgement nor a response is taken for a report. -/
theorem payloads_answer (gateway : Gateway) (tester : UInt16) (service : UInt8) (served : Served)
    {kind : PayloadType} (noMessage : kind ≠ .diagnosticMessage)
    (noAcknowledgement : kind ≠ .diagnosticMessageAck) :
    (gateway.answer tester service served).payloads kind =
      (served.followups.filter fun frame => decide (frame.payloadType = kind)).map
        Frame.payload := by
  have acknowledged : (gateway.acknowledgementFrames tester).filter
      (fun frame => decide (frame.payloadType = kind)) = [] := by
    rw [List.filter_eq_nil_iff]
    intro frame member
    rw [payloadType_of_mem_acknowledgementFrames member]
    simpa using noAcknowledgement.symm
  have response : ¬(gateway.diagnosticFrame tester (served.response service)).payloadType = kind :=
    noMessage.symm
  rw [GatewayOutput.payloads, answer, List.filter_append, acknowledged, List.nil_append,
    List.filter_cons_of_neg (by simpa using response)]

/-! ### Routines -/

/-- The response of a routine that has succeeded and counted the records on its subject. -/
def countResponse (gateway : Gateway) (subFunction : UInt8) (code : UInt16)
    (subject : RoutineSubject) : Octets :=
  RoutineResult.toOctets
    { subFunction := subFunction
      routine := code
      status := some .success
      count := some (gateway.countByte subject) }

theorem controlRoutine_of_sending {code : UInt16} {subject : RoutineSubject}
    (known : Routine.ofCode? code = some { subject := subject, role := .sendReport })
    (collecting : gateway.collecting subject = true) :
    gateway.controlRoutine 0x01 code =
      { gateway := gateway
        answer := .ok (gateway.countResponse 0x01 code subject)
        followups := [gateway.reportFrame subject] } := by
  have start : RoutineAction.ofCode? 0x01 = some .start := rfl
  unfold controlRoutine
  rw [known, start]
  exact if_pos collecting

theorem controlRoutine_of_results {code : UInt16} {subject : RoutineSubject} {role : RoutineRole}
    (known : Routine.ofCode? code = some { subject := subject, role := role }) :
    gateway.controlRoutine 0x03 code =
      { gateway := gateway, answer := .ok (gateway.countResponse 0x03 code subject) } := by
  have results : RoutineAction.ofCode? 0x03 = some .results := rfl
  unfold controlRoutine
  rw [known, results]
  cases role <;> rfl

/-- The count byte counts the records that a report on the subject would list. -/
theorem toNat_countByte {Record : Type} [TelemetryRecord Record] {subject : RoutineSubject}
    {payload : Octets} {records : List Record} (lists : Report.Lists payload records)
    (counted : gateway.recordCount subject = records.length) :
    (gateway.countByte subject).toNat = records.length := by
  have few : records.length ≤ Report.maximumCount := by
    have bound := (UInt8.ofNat records.length).toNat_lt
    rw [lists.announced] at bound
    exact Nat.le_of_lt_succ bound
  rw [countByte, counted, Nat.min_eq_left few, lists.announced]

end Gateway

namespace Asks

variable {gateway : Gateway} {input : GatewayInput} {tester : UInt16}

/-- The response to a request of the owner is all that is replied. -/
theorem replies_eq {request : UdsRequest} (asks : Asks gateway input tester request)
    (unmarked : Service.isResponseId request.service = false) :
    ∃ now, (gateway.step input).1.replies =
      [({ gateway with routing := gateway.routing.touch now }.serveRequest request).response
        request.service] := by
  obtain ⟨now, stepEq⟩ := asks.step_eq unmarked
  refine ⟨now, ?_⟩
  rw [stepEq]
  exact (Gateway.effect_serveRequest _ _).replies_answer tester

/-- The data with an identifier go behind it in the response. -/
theorem replies_of_data {identifier : UInt16} {data : DataIdentifier}
    (asks : Asks gateway input tester (.readDataByIdentifier identifier))
    (known : DataIdentifier.ofCode? identifier = some data) :
    (gateway.step input).1.replies =
      [0x62 :: (Octets.ofWord16 identifier ++ gateway.dataOf data)] := by
  obtain ⟨now, replies⟩ := asks.replies_eq Service.isResponseId_readDataByIdentifier
  have unchanged : { gateway with routing := gateway.routing.touch now }.dataOf data =
      gateway.dataOf data := by
    cases data <;> rfl
  rw [replies, Gateway.serveRequest, Gateway.readData, known, ← unchanged]
  rfl

/-- A routine that sends a report counts its records in the response. -/
theorem replies_of_sending {code : UInt16} {subject : RoutineSubject} {options : Octets}
    (asks : Asks gateway input tester (.routineControl 0x01 code options))
    (known : Routine.ofCode? code = some { subject := subject, role := .sendReport })
    (collecting : gateway.collecting subject = true) :
    (gateway.step input).1.replies =
        [0x71 :: 0x01 :: (Octets.ofWord16 code ++ [0x00, gateway.countByte subject])] ∧
      ∀ kind, kind ≠ .diagnosticMessage → kind ≠ .diagnosticMessageAck →
        (gateway.reportFrame subject).payloadType = kind →
          (gateway.step input).1.payloads kind = [(gateway.reportFrame subject).payload] := by
  obtain ⟨now, stepEq⟩ := asks.step_eq Service.isResponseId_routineControl
  have noted : { gateway with routing := gateway.routing.touch now }.collecting subject = true := by
    cases subject <;> exact collecting
  have served := Gateway.controlRoutine_of_sending known noted
  have count : { gateway with routing := gateway.routing.touch now }.countByte subject =
      gateway.countByte subject := by
    cases subject <;> rfl
  have report : { gateway with routing := gateway.routing.touch now }.reportFrame subject =
      gateway.reportFrame subject := by
    cases subject <;> rfl
  constructor
  · rw [stepEq, (Gateway.effect_serveRequest _ _).replies_answer tester, Gateway.serveRequest, served,
      ← count]
    rfl
  · intro kind noMessage noAcknowledgement ofKind
    rw [stepEq, Gateway.payloads_answer _ _ _ _ noMessage noAcknowledgement, Gateway.serveRequest,
      served, report]
    simp [ofKind]

theorem replies_of_results {code : UInt16} {subject : RoutineSubject} {role : RoutineRole}
    {options : Octets} (asks : Asks gateway input tester (.routineControl 0x03 code options))
    (known : Routine.ofCode? code = some { subject := subject, role := role }) :
    (gateway.step input).1.replies =
      [0x71 :: 0x03 :: (Octets.ofWord16 code ++ [0x00, gateway.countByte subject])] := by
  obtain ⟨now, replies⟩ := asks.replies_eq Service.isResponseId_routineControl
  have count : { gateway with routing := gateway.routing.touch now }.countByte subject =
      gateway.countByte subject := by
    cases subject <;> rfl
  rw [replies, Gateway.serveRequest, Gateway.controlRoutine_of_results known, ← count]
  rfl

end Asks

/-! ## Consolidated reports -/

namespace Gateway

variable {Record : Type} [TelemetryRecord Record] {gateway : Gateway} {records : List Record}

theorem tellsRecords_of_lists {identifier : UInt16} {data : DataIdentifier}
    (known : DataIdentifier.ofCode? identifier = some data)
    (lists : Report.Lists (gateway.dataOf data) records) :
    gateway.TellsRecords identifier records := fun _ _ asks =>
  ⟨_, asks.replies_of_data known, lists⟩

theorem sendsReport_of_lists {subject : RoutineSubject} {collect send : UInt16}
    (collects : Routine.ofCode? collect = some { subject := subject, role := .collect })
    (sends : Routine.ofCode? send = some { subject := subject, role := .sendReport })
    (counted : gateway.recordCount subject = records.length)
    (lists : Report.Lists (gateway.reportFrame subject).payload records) :
    gateway.SendsReport subject collect send (gateway.reportFrame subject).payloadType records where
  sent input tester options collecting asks := by
    obtain ⟨replies, payloads⟩ := asks.replies_of_sending sends collecting
    have report := payloads (gateway.reportFrame subject).payloadType (by cases subject <;> nofun)
      (by cases subject <;> nofun) rfl
    exact ⟨_, _, replies, report, toNat_countByte lists counted, lists⟩
  counted routine member input tester options asks := by
    have count := toNat_countByte lists counted
    rcases List.mem_pair.mp member with rfl | rfl
    · exact ⟨_, asks.replies_of_results collects, count⟩
    · exact ⟨_, asks.replies_of_results sends, count⟩

end Gateway

namespace Reaches

variable {config : GatewayConfig} {history : List Exchange} {gateway : Gateway}

/-- Whatever the gateway is called, a tester that asks for the configuration records of all units is
given a record for each. -/
theorem tellsVci (reached : Reaches config history gateway) :
    gateway.TellsRecords 0xF195
      (carried config.identity.vciRecord ::
        TelemetryStore.others config.identity.vciRecord gateway.telemetry.vci) := by
  have lists := TelemetryStore.lists_withOwn reached.gathered.vci config.identity.vciRecord
  rw [← reached.settings.1] at lists ⊢
  exact Gateway.tellsRecords_of_lists rfl lists

theorem tellsHealth (reached : Reaches config history gateway) :
    gateway.TellsRecords 0xF1A1
      (carried config.identity.healthRecord ::
        TelemetryStore.others config.identity.healthRecord gateway.telemetry.health) := by
  have lists := TelemetryStore.lists_withOwn reached.gathered.health config.identity.healthRecord
  rw [← reached.settings.1] at lists ⊢
  exact Gateway.tellsRecords_of_lists rfl lists

theorem sendsVci (reached : Reaches config history gateway) :
    gateway.SendsReport .vci 0xF001 0xF002 .vciReport
      (carried config.identity.vciRecord ::
        TelemetryStore.others config.identity.vciRecord gateway.telemetry.vci) := by
  have lists := TelemetryStore.lists_withOwn reached.gathered.vci config.identity.vciRecord
  rw [← reached.settings.1] at lists ⊢
  refine Gateway.sendsReport_of_lists rfl rfl ?_ lists
  rw [Gateway.recordCount, Gateway.vciRecords, TelemetryStore.withOwn_eq, List.length_cons,
    List.length_cons]

theorem sendsReadiness (reached : Reaches config history gateway) :
    gateway.SendsReport .readiness 0xF003 0xF004 .readinessReport
      (carried config.identity.readinessRecord ::
        TelemetryStore.others config.identity.readinessRecord gateway.telemetry.readiness) := by
  have lists :=
    TelemetryStore.lists_withOwn reached.gathered.readiness config.identity.readinessRecord
  rw [← reached.settings.1] at lists ⊢
  refine Gateway.sendsReport_of_lists rfl rfl ?_ lists
  rw [Gateway.recordCount, Gateway.readinessRecords, TelemetryStore.withOwn_eq, List.length_cons,
    List.length_cons]

end Reaches

/-- A gateway whose own texts their fields can hold tells of its own record and of the stored records
of all other units, in the order of the store: when it is asked for the data, when a routine sends a
report, and whenever a routine counts the records.  The report is whole, nothing follows it, and its
count byte always reaches. -/
theorem consolidated_reports_complete {config : GatewayConfig} {history : List Exchange}
    {gateway : Gateway} (reached : Reaches config history gateway)
    (legible : config.identity.vci.Legible) :
    gateway.TellsRecords 0xF195
        (config.identity.vciRecord ::
          TelemetryStore.others config.identity.vciRecord gateway.telemetry.vci) ∧
      gateway.TellsRecords 0xF1A1
        (config.identity.healthRecord ::
          TelemetryStore.others config.identity.healthRecord gateway.telemetry.health) ∧
      gateway.SendsReport .vci 0xF001 0xF002 .vciReport
        (config.identity.vciRecord ::
          TelemetryStore.others config.identity.vciRecord gateway.telemetry.vci) ∧
      gateway.SendsReport .readiness 0xF003 0xF004 .readinessReport
        (config.identity.readinessRecord ::
          TelemetryStore.others config.identity.readinessRecord gateway.telemetry.readiness) := by
  have vci : carried config.identity.vciRecord = config.identity.vciRecord :=
    Identity.carried_vciRecord legible
  have health : carried config.identity.healthRecord = config.identity.healthRecord :=
    Identity.carried_healthRecord legible
  have readiness : carried config.identity.readinessRecord = config.identity.readinessRecord :=
    Identity.carried_readinessRecord legible
  have tellsVci := reached.tellsVci
  have tellsHealth := reached.tellsHealth
  have sendsVci := reached.sendsVci
  have sendsReadiness := reached.sendsReadiness
  rw [vci] at tellsVci sendsVci
  rw [health] at tellsHealth
  rw [readiness] at sendsReadiness
  exact ⟨tellsVci, tellsHealth, sendsVci, sendsReadiness⟩

/-- The collection is started, and another unit reports together with one that has the gateway's own
name. -/
def sampleCollecting : List GatewayInput :=
  [sampleActivation, sampleRequest [0x31, 0x01, 0xF0, 0x01],
    sampleReport [sampleVci "ECU_091" "9", sampleVci "A" "1"]]

theorem consolidated_reports_complete_sample :
    let gateway := ((Gateway.ofConfig {}).run sampleCollecting).2
    let own : VciRecord := ({} : Identity).vciRecord
    (∃ history, Reaches {} history gateway) ∧ own.Legible ∧
      (∃ report,
        (gateway.step (sampleRequest [0x22, 0xF1, 0x95])).1.replies =
            [0x62 :: 0xF1 :: 0x95 :: report] ∧
          Report.Lists report [own, sampleVci "A" "1"]) ∧
      ∃ count report,
        (gateway.step (sampleRequest [0x31, 0x01, 0xF0, 0x02])).1.replies =
            [[0x71, 0x01, 0xF0, 0x02, 0x00, count]] ∧
          (gateway.step (sampleRequest [0x31, 0x01, 0xF0, 0x02])).1.payloads .vciReport = [report] ∧
          count.toNat = 2 ∧ Report.Lists report [own, sampleVci "A" "1"] := by
  intro gateway own
  have reached : Reaches {} ((Gateway.ofConfig {}).history sampleCollecting) gateway :=
    reaches_iff_run.mpr ⟨_, _, rfl, rfl, rfl⟩
  have legible : own.Legible := ⟨by decide, by decide, by decide, by decide⟩
  have stored : TelemetryStore.others own gateway.telemetry.vci = [sampleVci "A" "1"] := by decide
  have reads : Asks gateway (sampleRequest [0x22, 0xF1, 0x95]) 0x0E00
      (.readDataByIdentifier 0xF195) := ⟨by decide, by decide⟩
  have starts : Asks gateway (sampleRequest [0x31, 0x01, 0xF0, 0x02]) 0x0E00
      (.routineControl 0x01 0xF002 []) := ⟨by decide, by decide⟩
  obtain ⟨tells, -, sends, -⟩ := consolidated_reports_complete reached legible
  have told := tells _ _ reads
  have sent := sends.sent _ _ _ (by decide) starts
  rw [show ({} : GatewayConfig).identity.vciRecord = own from rfl, stored] at told sent
  exact ⟨⟨_, reached⟩, legible, told, sent⟩

end DiagnosticGateway
