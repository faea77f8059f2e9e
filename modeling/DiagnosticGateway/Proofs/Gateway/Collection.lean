/-
Module: DiagnosticGateway.Proofs.Gateway.Collection
Purpose: The records of other units that a gateway has collected over a whole run.
Main exports:
  Gateway.reported, Gateway.received, Gateway.telemetry_step, Gateway.telemetry_run,
  TelemetryStore.Collected, TelemetryStore.Extends, telemetry_summarizes_reports
-/
import DiagnosticGateway.Proofs.Gateway.Authority
import DiagnosticGateway.Proofs.Telemetry.Store

/-!
A gateway that is not reset collects records for as long as it runs.  Which records come in depends on
the frames and on whether routing is active; what is kept of them depends on their sequence alone, and
so neither on the reports that brought them nor on the sessions in which they came.
-/

namespace DiagnosticGateway

open TelemetryStore (merge summary Summarizes)

/-- The payload type of a report of some kind. -/
def TelemetryKind.payloadType : TelemetryKind → PayloadType
  | .vci => .vciReport
  | .health => .healthReport
  | .readiness => .readinessReport

/-- The whole records at the front of a report; none if it cannot be read. -/
def Report.recordsIn (Record : Type) [TelemetryRecord Record] (payload : Octets) : List Record :=
  match (parse payload : Except TelemetryFault (Report Record)) with
  | .ok report => report.records
  | .error _ => []

namespace Gateway

/-- The records that an input brings: those of a report of their kind that comes while routing is
active. -/
def reported (Record : Type) [TelemetryRecord Record] (gateway : Gateway) :
    GatewayInput → List Record
  | .frame frame _ =>
      if gateway.routing.isActive = true ∧
          frame.payloadType = (TelemetryRecord.kind Record).payloadType then
        Report.recordsIn Record frame.payload
      else []
  | .poll _ | .deactivate | .reset => []

/-- The records that inputs bring, in order of arrival. -/
def received (Record : Type) [TelemetryRecord Record] (gateway : Gateway) :
    List GatewayInput → List Record
  | [] => []
  | input :: inputs =>
      gateway.reported Record input ++ (gateway.step input).2.received Record inputs

end Gateway

/-- A store that takes records of each kind. -/
def TelemetryStore.mergeAll (store : TelemetryStore) (vci : List VciRecord)
    (health : List HealthRecord) (readiness : List ReadinessRecord) : TelemetryStore :=
  { vci := merge store.vci vci
    health := merge store.health health
    readiness := merge store.readiness readiness }

theorem TelemetryStore.mergeAll_append (store : TelemetryStore) (vci moreVci : List VciRecord)
    (health moreHealth : List HealthRecord) (readiness moreReadiness : List ReadinessRecord) :
    store.mergeAll (vci ++ moreVci) (health ++ moreHealth) (readiness ++ moreReadiness) =
      (store.mergeAll vci health readiness).mergeAll moreVci moreHealth moreReadiness := by
  simp only [mergeAll, merge_append]

namespace Gateway

variable {gateway : Gateway} {frame : Frame} {now : Time}

/-! ## One input -/

/-- A frame that is no report leaves the records alone. -/
theorem telemetry_handleFrame_of_plain
    (plain : ∀ kind : TelemetryKind, frame.payloadType ≠ kind.payloadType) :
    (gateway.handleFrame frame now).2.telemetry = gateway.telemetry := by
  rcases (gateway.frameEffect_handleFrame frame now).recorded with same | ⟨-, recorded⟩
  · exact same.trans (gateway.sameButTimes_noteActivity now).telemetry
  · cases recorded with
    | vci kind => exact absurd kind (plain .vci)
    | health kind => exact absurd kind (plain .health)
    | readiness kind => exact absurd kind (plain .readiness)

/-- A report is kept as far as it can be read, if routing is active. -/
theorem telemetry_handleReport {Record : Type} [TelemetryRecord Record]
    {keep : TelemetryStore → List Record → TelemetryStore} {event : Report Record → GatewayEvent}
    (neutral : ∀ store, keep store [] = store) (gateway : Gateway) (payload : Octets)
    (now : Time) :
    ((gateway.noteActivity now).orRefuse
        ((gateway.noteActivity now).handleReport payload keep event) id).2.telemetry =
      keep gateway.telemetry
        (if gateway.routing.isActive = true then Report.recordsIn Record payload else []) := by
  have noted := (gateway.sameButTimes_noteActivity now).telemetry
  unfold handleReport Report.recordsIn
  rw [isActive_noteActivity, noted]
  split
  · cases (Report.parse payload : Except TelemetryFault (Report Record)) with
    | ok report => rfl
    | error fault => exact noted.trans (neutral _).symm
  · exact noted.trans (neutral _).symm

section

variable (Record : Type) [TelemetryRecord Record]

theorem reported_of_kind (gateway : Gateway) (now : Time)
    (kind : frame.payloadType = (TelemetryRecord.kind Record).payloadType) :
    gateway.reported Record (.frame frame now) =
      if gateway.routing.isActive = true then Report.recordsIn Record frame.payload else [] := by
  simp only [reported, kind, and_true]

theorem reported_of_otherKind (gateway : Gateway) (now : Time)
    (other : frame.payloadType ≠ (TelemetryRecord.kind Record).payloadType) :
    gateway.reported Record (.frame frame now) = [] :=
  if_neg fun both => other both.2

end

/-- A frame adds the records that it brings, and no others. -/
theorem telemetry_handleFrame (gateway : Gateway) (frame : Frame) (now : Time) :
    (gateway.handleFrame frame now).2.telemetry =
      gateway.telemetry.mergeAll (gateway.reported VciRecord (.frame frame now))
        (gateway.reported HealthRecord (.frame frame now))
        (gateway.reported ReadinessRecord (.frame frame now)) := by
  by_cases plain : ∀ kind : TelemetryKind, frame.payloadType ≠ kind.payloadType
  · rw [telemetry_handleFrame_of_plain plain, reported_of_otherKind _ gateway now (plain .vci),
      reported_of_otherKind _ gateway now (plain .health),
      reported_of_otherKind _ gateway now (plain .readiness)]
    rfl
  · obtain ⟨kind, is⟩ := not_forall_not.mp plain
    cases kind with
    | vci =>
        rw [reported_of_kind VciRecord gateway now is,
          reported_of_otherKind HealthRecord gateway now (by rw [is]; decide),
          reported_of_otherKind ReadinessRecord gateway now (by rw [is]; decide), handleFrame, is]
        exact telemetry_handleReport (fun _ => rfl) gateway frame.payload now
    | health =>
        rw [reported_of_kind HealthRecord gateway now is,
          reported_of_otherKind VciRecord gateway now (by rw [is]; decide),
          reported_of_otherKind ReadinessRecord gateway now (by rw [is]; decide), handleFrame, is]
        exact telemetry_handleReport (fun _ => rfl) gateway frame.payload now
    | readiness =>
        rw [reported_of_kind ReadinessRecord gateway now is,
          reported_of_otherKind VciRecord gateway now (by rw [is]; decide),
          reported_of_otherKind HealthRecord gateway now (by rw [is]; decide), handleFrame, is]
        exact telemetry_handleReport (fun _ => rfl) gateway frame.payload now

/-- Every input but a reset adds the records that it brings, and no others. -/
theorem telemetry_step (gateway : Gateway) {input : GatewayInput} (noReset : input ≠ .reset) :
    (gateway.step input).2.telemetry =
      gateway.telemetry.mergeAll (gateway.reported VciRecord input)
        (gateway.reported HealthRecord input) (gateway.reported ReadinessRecord input) := by
  cases input with
  | frame frame now => exact gateway.telemetry_handleFrame frame now
  | poll now => exact (gateway.keepsRecords_pollAliveCheck now).telemetry
  | deactivate => exact gateway.keepsRecords_deactivate.telemetry
  | reset => exact absurd rfl noReset

/-! ## Runs -/

/-- A run without a reset adds the records that its inputs bring, and no others. -/
theorem telemetry_run (gateway : Gateway) {inputs : List GatewayInput} (noReset : .reset ∉ inputs) :
    (gateway.run inputs).2.telemetry =
      gateway.telemetry.mergeAll (gateway.received VciRecord inputs)
        (gateway.received HealthRecord inputs) (gateway.received ReadinessRecord inputs) := by
  induction inputs generalizing gateway with
  | nil => rfl
  | cons input inputs inductionHypothesis =>
      obtain ⟨first, others⟩ := not_or.mp (mt List.mem_cons.mpr noReset)
      have later := inductionHypothesis (gateway.step input).2 others
      rw [telemetry_step gateway (Ne.symm first)] at later
      rw [received, received, received, TelemetryStore.mergeAll_append]
      exact later

theorem received_append (Record : Type) [TelemetryRecord Record] (gateway : Gateway)
    (front back : List GatewayInput) :
    gateway.received Record (front ++ back) =
      gateway.received Record front ++ (gateway.run front).2.received Record back := by
  induction front generalizing gateway with
  | nil => rfl
  | cons input front inductionHypothesis =>
      rw [List.cons_append, received, received, inductionHypothesis, List.append_assoc]
      rfl

end Gateway

/-- A store holds the summary of the records that have come in, of each kind. -/
structure TelemetryStore.Collected (store : TelemetryStore) (vci : List VciRecord)
    (health : List HealthRecord) (readiness : List ReadinessRecord) : Prop where
  vci : Summarizes store.vci vci
  health : Summarizes store.health health
  readiness : Summarizes store.readiness readiness

/-- The units of a store are those of another one or more, and in the same places. -/
structure TelemetryStore.Extends (store longer : TelemetryStore) : Prop where
  vci : store.vci.map VciRecord.ecuId <+: longer.vci.map VciRecord.ecuId
  health : store.health.map HealthRecord.ecuId <+: longer.health.map HealthRecord.ecuId
  readiness :
    store.readiness.map ReadinessRecord.ecuId <+: longer.readiness.map ReadinessRecord.ecuId

namespace Gateway

/-- A connection starts with an empty store, so it ends with a summary of what has come in. -/
theorem telemetry_run_of_start {config : GatewayConfig} {gateway : Gateway}
    (started : start? config = .ok gateway) {inputs : List GatewayInput}
    (noReset : .reset ∉ inputs) :
    (gateway.run inputs).2.telemetry =
      { vci := summary (gateway.received VciRecord inputs)
        health := summary (gateway.received HealthRecord inputs)
        readiness := summary (gateway.received ReadinessRecord inputs) } := by
  obtain ⟨-, rfl⟩ := start?_eq_ok_iff.mp started
  rw [telemetry_run _ noReset, TelemetryStore.mergeAll, ← TelemetryStore.merge_eq_summary,
    ← TelemetryStore.merge_eq_summary, ← TelemetryStore.merge_eq_summary]
  rfl

end Gateway

/-- Until it is reset, a gateway holds of each kind the last record of each of the first 254 units
that have reported while routing was active.  So no unit is held twice, and none is lost or changes its
place whatever comes; and what is held does not depend on the reports and the sessions in which the
records came. -/
theorem telemetry_summarizes_reports {config : GatewayConfig} {gateway : Gateway}
    (started : Gateway.start? config = .ok gateway) {inputs : List GatewayInput}
    (noReset : .reset ∉ inputs) :
    (gateway.run inputs).2.telemetry.Collected (gateway.received VciRecord inputs)
        (gateway.received HealthRecord inputs) (gateway.received ReadinessRecord inputs) ∧
      (∀ more, .reset ∉ more →
        (gateway.run inputs).2.telemetry.Extends (gateway.run (inputs ++ more)).2.telemetry) ∧
      ∀ otherConfig (other : Gateway) others, Gateway.start? otherConfig = .ok other →
        .reset ∉ others →
        other.received VciRecord others = gateway.received VciRecord inputs →
        other.received HealthRecord others = gateway.received HealthRecord inputs →
        other.received ReadinessRecord others = gateway.received ReadinessRecord inputs →
        (other.run others).2.telemetry = (gateway.run inputs).2.telemetry := by
  have stored := Gateway.telemetry_run_of_start started noReset
  refine ⟨?collected, ?extended, ?same⟩
  case collected =>
    rw [stored]
    exact ⟨TelemetryStore.summarizes_summary _, TelemetryStore.summarizes_summary _,
      TelemetryStore.summarizes_summary _⟩
  case extended =>
    intro more noMoreReset
    have neither : .reset ∉ inputs ++ more := by simp [noReset, noMoreReset]
    rw [stored, Gateway.telemetry_run_of_start started neither, Gateway.received_append,
      Gateway.received_append, Gateway.received_append]
    exact ⟨TelemetryStore.isPrefix_summary_append _ _, TelemetryStore.isPrefix_summary_append _ _,
      TelemetryStore.isPrefix_summary_append _ _⟩
  case same =>
    intro otherConfig other others otherStarted noOtherReset vci health readiness
    rw [stored, Gateway.telemetry_run_of_start otherStarted noOtherReset, vci, health, readiness]

/-- What a unit says about its software. -/
def sampleVci (unit version : String) : VciRecord :=
  { ecuId := unit, swVersion := version, hwVersion := "", serial := "" }

/-- A report with these records. -/
def sampleReport (records : List VciRecord) : GatewayInput :=
  .frame (.ofPayload .vciReport (Report.encode records)) 0

/-- Two units report, and one of them once more in a second session; what it says between the two
sessions comes too early. -/
def sampleReports : List GatewayInput :=
  [sampleActivation, sampleReport [sampleVci "A" "1", sampleVci "B" "1"], .deactivate,
    sampleReport [sampleVci "A" "2"], sampleActivation, sampleReport [sampleVci "A" "3"]]

theorem telemetry_summarizes_reports_sample :
    Gateway.start? {} = .ok (Gateway.ofConfig {}) ∧ .reset ∉ sampleReports ∧
      (Gateway.ofConfig {}).received VciRecord sampleReports =
        [sampleVci "A" "1", sampleVci "B" "1", sampleVci "A" "3"] ∧
      ((Gateway.ofConfig {}).run sampleReports).2.telemetry.vci =
        [sampleVci "A" "3", sampleVci "B" "1"] := by
  have started : Gateway.start? {} = .ok (Gateway.ofConfig {}) := rfl
  have noReset : .reset ∉ sampleReports := by decide
  have received : (Gateway.ofConfig {}).received VciRecord sampleReports =
      [sampleVci "A" "1", sampleVci "B" "1", sampleVci "A" "3"] := by
    decide
  obtain ⟨collected, -, -⟩ := telemetry_summarizes_reports started noReset
  refine ⟨started, noReset, received, collected.vci.eq_summary.trans ?_⟩
  rw [received]
  decide

end DiagnosticGateway
