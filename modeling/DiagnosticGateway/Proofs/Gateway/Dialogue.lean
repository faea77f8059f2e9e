/-
Module: DiagnosticGateway.Proofs.Gateway.Dialogue
Purpose: How long two gateways go on answering each other.
Main exports:
  Party, Dialogue, Dialogue.Step, Dialogue.Takes, Frame.weight, Gateway.subsides_handleFrame,
  Dialogue.Settled, Dialogue.Restless, dialogue_ends_unless_both_inactive
-/
import DiagnosticGateway.Proofs.Gateway.Answer
import DiagnosticGateway.Proofs.Gateway.SessionStep

/-!
Two gateways are joined, so that each of them is sent what the other one answers.  The weight of a
frame is a bound on how many frames are taken because of it, itself included: it is more than the
weight of all that is answered to the frame.  So what is on its way loses weight with every frame that
is taken, and the exchange ends.

There is one kind of frame that can have no weight.  A gateway whose routing is not active denies every
diagnostic message, and so it denies a denial as well.
-/

namespace DiagnosticGateway

/-! ## Two gateways -/

/-- A gateway, and the frames on their way to it. -/
structure Party where
  gateway : Gateway
  inbox : List Frame := []

/-- The party takes the next frame; the frames that it answers with come out. -/
def Party.take? (party : Party) (now : Time) : Option (List Frame × Party) :=
  match party.inbox with
  | [] => none
  | frame :: inbox =>
      let (output, gateway) := party.gateway.handleFrame frame now
      some (output.frames, { gateway := gateway, inbox := inbox })

/-- Frames are sent to the party. -/
def Party.send (party : Party) (frames : List Frame) : Party :=
  { party with inbox := party.inbox ++ frames }

/-- Two gateways, each of which is sent what the other one answers. -/
structure Dialogue where
  first : Party
  second : Party

namespace Dialogue

/-- A frame is sent to the first of two gateways. -/
def opening (first second : Gateway) (frame : Frame) : Dialogue :=
  { first := { gateway := first, inbox := [frame] }, second := { gateway := second } }

/-- One of the gateways, no matter which, takes a frame at some time. -/
inductive Step (dialogue : Dialogue) : Dialogue → Prop where
  | first {frames : List Frame} {party : Party} (now : Time)
      (took : dialogue.first.take? now = some (frames, party)) :
      Step dialogue { first := party, second := dialogue.second.send frames }
  | second {frames : List Frame} {party : Party} (now : Time)
      (took : dialogue.second.take? now = some (frames, party)) :
      Step dialogue { first := dialogue.first.send frames, second := party }

/-- So many frames are taken, one after the other. -/
inductive Takes : Nat → Dialogue → Dialogue → Prop where
  | none (dialogue : Dialogue) : Takes 0 dialogue dialogue
  | next {taken : Nat} {before between after : Dialogue} (step : before.Step between)
      (rest : Takes taken between after) : Takes (taken + 1) before after

end Dialogue

theorem Party.take?_eq_some_iff {party next : Party} {now : Time} {frames : List Frame} :
    party.take? now = some (frames, next) ↔
      ∃ frame, party.inbox = frame :: next.inbox ∧
        frames = (party.gateway.handleFrame frame now).1.frames ∧
        next.gateway = (party.gateway.handleFrame frame now).2 := by
  unfold take?
  split
  · rename_i empty
    simp [empty]
  · rename_i frame inbox queued
    obtain ⟨gateway, rest⟩ := next
    simp only [Option.some.injEq, Prod.mk.injEq, Party.mk.injEq, queued, List.cons.injEq]
    constructor
    · rintro ⟨rfl, rfl, rfl⟩
      exact ⟨frame, ⟨rfl, rfl⟩, rfl, rfl⟩
    · rintro ⟨other, ⟨rfl, rfl⟩, rfl, rfl⟩
      exact ⟨rfl, rfl, rfl⟩

theorem Party.exists_take {party : Party} {frame : Frame} {inbox : List Frame}
    (queued : party.inbox = frame :: inbox) (now : Time) :
    ∃ taken, party.take? now = some taken := by
  unfold take?
  rw [queued]
  exact ⟨_, rfl⟩

/-! ## The weight of a frame -/

/-- A bound on how many more frames are taken because of a frame.  It depends on whether routing is
active where the frame goes to. -/
def Frame.aftermath (active : Bool) (frame : Frame) : Nat :=
  match frame.payloadType with
  | .genericNack | .aliveCheckResponse => 0
  | .diagnosticMessageAck | .diagnosticMessageNack =>
      match Acknowledgement.parse frame.payloadType frame.payload with
      | .ok _ => 0
      | .error _ => 1
  | .vciReport | .healthReport | .readinessReport => if active then 1 else 0
  | .diagnosticMessage =>
      match frame.serviceData? with
      | none => 1
      | some data =>
          if !active then 2
          else if Service.isResponseId (data.headD 0) then 1
          else 5
  | .routingActivationRequest => 2
  | .vehicleIdentificationRequest | .vehicleIdentificationRequestEid
  | .vehicleIdentificationRequestVin | .vehicleAnnouncement | .routingActivationResponse
  | .aliveCheckRequest | .unassigned _ => 1

/-- A bound on how many frames are taken because of these, themselves included. -/
def weightOf (active : Bool) : List Frame → Nat
  | [] => 0
  | frame :: frames => frame.aftermath active + 1 + weightOf active frames

/-- A frame whose aftermath holds between two gateways, each active or not: it does not activate
routing, and if it is a diagnostic message, routing is active at one of them. -/
structure Frame.Settled (here there : Bool) (frame : Frame) : Prop where
  plain : frame.payloadType ≠ .routingActivationRequest
  routed : frame.serviceData? = none ∨ here = true ∨ there = true

/-- What is answered weighs no more than it may. -/
structure Subsides (here there : Bool) (bound : Nat) (frames : List Frame) : Prop where
  settled : ∀ frame ∈ frames, frame.Settled here there
  bounded : weightOf there frames ≤ bound

section

variable {active here there : Bool}

theorem Frame.aftermath_le (frame : Frame) (active : Bool) : frame.aftermath active ≤ 5 := by
  unfold aftermath
  repeat' split
  all_goals decide

theorem Frame.Settled.symm {frame : Frame} (settled : frame.Settled here there) :
    frame.Settled there here :=
  ⟨settled.plain, settled.routed.imp_right Or.symm⟩

/-- A frame that is no diagnostic message is settled unless it activates routing. -/
theorem Frame.settled_ofPayload {payloadType : PayloadType} {payload : Octets}
    (plain : payloadType ≠ .routingActivationRequest) (other : payloadType ≠ .diagnosticMessage) :
    (Frame.ofPayload payloadType payload).Settled here there :=
  ⟨plain, .inl (serviceData?_eq_none other)⟩

@[simp] theorem weightOf_nil : weightOf active [] = 0 := rfl

@[simp] theorem weightOf_cons (frame : Frame) (frames : List Frame) :
    weightOf active (frame :: frames) = frame.aftermath active + 1 + weightOf active frames := rfl

@[simp] theorem weightOf_append (front back : List Frame) :
    weightOf active (front ++ back) = weightOf active front + weightOf active back := by
  induction front with
  | nil => simp
  | cons frame front inductionHypothesis => simp [inductionHypothesis, Nat.add_assoc]

namespace Subsides

variable {frames others : List Frame} {bound more : Nat}

theorem nil : Subsides here there bound [] := ⟨nofun, Nat.zero_le bound⟩

theorem single {frame : Frame} (settled : frame.Settled here there)
    (bounded : frame.aftermath there < bound) : Subsides here there bound [frame] :=
  ⟨List.forall_mem_singleton.mpr settled, bounded⟩

theorem append (answers : Subsides here there bound frames)
    (follows : Subsides here there more others) :
    Subsides here there (bound + more) (frames ++ others) := by
  refine ⟨List.forall_mem_append.mpr ⟨answers.settled, follows.settled⟩, ?_⟩
  rw [weightOf_append]
  exact Nat.add_le_add answers.bounded follows.bounded

theorem mono (answers : Subsides here there bound frames) (less : bound ≤ more) :
    Subsides here there more frames :=
  ⟨answers.settled, Nat.le_trans answers.bounded less⟩

end Subsides

/-! ## What the gateway answers with -/

theorem GenericNackCode.subsides_toFrame (reason : GenericNackCode) :
    Subsides here there 1 [reason.toFrame] :=
  .single (Frame.settled_ofPayload (by decide) (by decide)) Nat.one_pos

theorem AliveCheckResponse.subsides_toFrame (response : AliveCheckResponse) :
    Subsides here there 1 [response.toFrame] :=
  .single (Frame.settled_ofPayload (by decide) (by decide)) Nat.one_pos

namespace Frame

variable {source target : UInt16}

/-- What tells of a diagnostic message that it was taken or refused is not answered. -/
theorem subsides_receipt {payloadType : PayloadType} {code : UInt8}
    (receipt : payloadType = .diagnosticMessageAck ∨ payloadType = .diagnosticMessageNack) :
    Subsides here there 1 [.addressed payloadType source target [code]] := by
  rcases receipt with rfl | rfl
  · exact .single (settled_ofPayload (by decide) (by decide)) Nat.one_pos
  · exact .single (settled_ofPayload (by decide) (by decide)) Nat.one_pos

theorem serviceData?_addressed {first : UInt8} {rest : Octets} :
    (addressed .diagnosticMessage source target (first :: rest)).serviceData? =
      some (first :: rest) := by
  have parsed : DiagnosticMessage.parse
      (addressed .diagnosticMessage source target (first :: rest)).payload = .ok _ :=
    DiagnosticMessage.parse_toOctets
  rw [serviceData?, diagnostic?_eq_some_iff.mpr ⟨rfl, parsed⟩]
  rfl

/-- A response leads to an acknowledgement at most where routing is active, and to a denial where it is
not. -/
theorem subsides_response {service : UInt8} {data : Octets}
    (response : Service.isResponseId service = true) (routed : here = true ∨ there = true) :
    Subsides here there (if there then 2 else 3)
      [.addressed .diagnosticMessage source target (service :: data)] := by
  have kind : (addressed .diagnosticMessage source target (service :: data)).payloadType =
      .diagnosticMessage := rfl
  refine .single ⟨by rw [kind]; nofun, .inr routed⟩ ?_
  rw [aftermath, kind]
  simp only [serviceData?_addressed, List.headD_cons, response]
  cases there <;> decide

/-- A report is answered at most where routing is active, and then only if it is refused. -/
theorem subsides_report {payloadType : PayloadType} {payload : Octets}
    (report : payloadType = .vciReport ∨ payloadType = .readinessReport) :
    Subsides here there (if there then 2 else 1)
      [{ payloadType := payloadType, payload := payload }] := by
  have light : (if there then 1 else 0) < if there then 2 else 1 := by
    cases there <;> decide
  rcases report with rfl | rfl
  · exact .single (settled_ofPayload (by decide) (by decide)) light
  · exact .single (settled_ofPayload (by decide) (by decide)) light

end Frame

theorem Gateway.subsides_reportsAsked (gateway : Gateway) (request : Octets) :
    Subsides here there (if there then 2 else 1) (gateway.reportsAsked request) := by
  unfold reportsAsked
  by_cases vci : request.take 4 = [0x31, 0x01, 0xF0, 0x02]
  · rw [if_pos vci]
    exact Frame.subsides_report (.inl rfl)
  by_cases readiness : request.take 4 = [0x31, 0x01, 0xF0, 0x04]
  · rw [if_neg vci, if_pos readiness]
    exact Frame.subsides_report (.inr rfl)
  · rw [if_neg vci, if_neg readiness]
    exact .nil

/-- What is answered to a diagnostic message. -/
theorem Gateway.Answers.subsides {gateway : Gateway} {serve : UdsMessage → Served}
    {source target : UInt16} {service : UInt8} {parameters : Octets} {output : GatewayOutput}
    (answers : gateway.Answers serve source target service parameters output)
    (routed : gateway.routing.isActive = true ∨ there = true) :
    Subsides gateway.routing.isActive there
      (if !gateway.routing.isActive then 2 else if Service.isResponseId service then 1 else 5)
      output.frames := by
  cases answers with
  | unrouted inactive =>
      have closed : gateway.routing.isActive = false := by simp [Routing.isActive, inactive]
      rw [closed] at routed ⊢
      obtain rfl : there = true := routed.resolve_left Bool.false_ne_true
      exact Frame.subsides_response rfl routed
  | wrongSource active | wrongTarget active =>
      rw [Routing.isActive_iff.mpr active]
      refine (Frame.subsides_receipt (.inr rfl)).mono ?_
      cases Service.isResponseId service <;> decide
  | taken active owner addressed answers =>
      have taking := Routing.isActive_iff.mpr active
      rw [taking] at routed ⊢
      have acknowledged : Subsides true there 1
          (if gateway.config.framing.acknowledge then
            [.addressed .diagnosticMessageAck gateway.config.localAddress source [0x00]]
          else []) := by
        split
        · exact Frame.subsides_receipt (.inl rfl)
        · exact .nil
      cases answers with
      | response marked =>
          have response : Service.isResponseId service = true := bne_iff_ne.mpr marked
          rw [response, List.append_nil]
          exact acknowledged
      | granted unmarked =>
          have request : Service.isResponseId service = false := bne_eq_false_iff_eq.mpr unmarked
          have granted := Service.isResponseId_responseId request
          rw [request]
          refine (acknowledged.append ((Frame.subsides_response granted routed).append
            (gateway.subsides_reportsAsked (service :: parameters)))).mono ?_
          cases there <;> decide
      | denied unmarked =>
          have request : Service.isResponseId service = false := bne_eq_false_iff_eq.mpr unmarked
          rw [request]
          refine (acknowledged.append (Frame.subsides_response rfl routed)).mono ?_
          cases there <;> decide

namespace Gateway

theorem subsides_handleReport {Record : Type} [TelemetryRecord Record] {payload : Octets}
    {keep : TelemetryStore → List Record → TelemetryStore} {event : Report Record → GatewayEvent}
    (gateway : Gateway) :
    Subsides here there (if gateway.routing.isActive then 1 else 0)
      (gateway.orRefuse (gateway.handleReport payload keep event) id).1.frames := by
  unfold handleReport
  split
  · cases (Report.parse payload : Except TelemetryFault (Report Record)) with
    | ok report => exact .nil
    | error fault => exact GenericNackCode.subsides_toFrame _
  · exact .nil

/-- What is answered to a frame weighs no more than the frame lets expect. -/
theorem subsides_handlePayload (gateway : Gateway) (frame : Frame) (now : Time)
    (settled : frame.Settled gateway.routing.isActive there) :
    Subsides gateway.routing.isActive there (frame.aftermath gateway.routing.isActive)
      (gateway.handlePayload frame.payloadType frame.payload now).1.frames := by
  obtain ⟨plain, routed⟩ := settled
  unfold Frame.aftermath
  cases payloadType : frame.payloadType with
  | routingActivationRequest => exact absurd payloadType plain
  | aliveCheckRequest =>
      simp only [handlePayload, orRefuse]
      split
      · exact AliveCheckResponse.subsides_toFrame _
      · exact GenericNackCode.subsides_toFrame _
  | aliveCheckResponse | genericNack => exact .nil
  | diagnosticMessage =>
      simp only [handlePayload, orRefuse]
      cases parsed : DiagnosticMessage.parse frame.payload with
      | ok message =>
          have carried := Frame.diagnostic?_eq_some_iff.mpr ⟨payloadType, parsed⟩
          have data : frame.serviceData? = some message.userData := by
            rw [Frame.serviceData?, carried, Option.map_some]
          obtain ⟨source, target, service, parameters, rfl⟩ := DiagnosticMessage.exists_of_parse parsed
          rw [data] at routed ⊢
          exact (gateway.answers_handleDiagnostic source target service parameters).subsides
            (routed.resolve_left (Option.some_ne_none _))
      | error fault =>
          have none : frame.serviceData? = none := by
            simp [Frame.serviceData?, Frame.diagnostic?, payloadType, parsed, Except.toOption]
          rw [none]
          exact GenericNackCode.subsides_toFrame _
  | diagnosticMessageAck | diagnosticMessageNack =>
      simp only [handlePayload, orRefuse]
      cases Acknowledgement.parse _ frame.payload with
      | ok acknowledgement => exact .nil
      | error fault => exact GenericNackCode.subsides_toFrame _
  | vciReport | healthReport | readinessReport => exact gateway.subsides_handleReport
  | vehicleIdentificationRequest | vehicleIdentificationRequestEid
  | vehicleIdentificationRequestVin | vehicleAnnouncement | routingActivationResponse
  | unassigned code => exact GenericNackCode.subsides_toFrame _

/-- Only an activation changes whether routing is active. -/
theorem isActive_handleFrame {gateway : Gateway} {frame : Frame} {now : Time}
    (plain : frame.payloadType ≠ .routingActivationRequest) :
    (gateway.handleFrame frame now).2.routing.isActive = gateway.routing.isActive := by
  have effect := gateway.frameEffect_handleFrame frame now
  rw [← gateway.isActive_noteActivity now]
  generalize gateway.handleFrame frame now = handled at effect ⊢
  obtain ⟨output, next⟩ := handled
  cases effect with
  | activated activation | takenOver activation => exact absurd activation plain
  | served => exact congrArg Routing.isActive (effect_serve _ _).routing
  | refused | ignored | aliveAsked | aliveAnswered | vciReported | healthReported
  | readinessReported | unrouted | wrongSource | wrongTarget | responded => rfl

theorem subsides_handleFrame (gateway : Gateway) (frame : Frame) (now : Time)
    (settled : frame.Settled gateway.routing.isActive there) :
    Subsides gateway.routing.isActive there (frame.aftermath gateway.routing.isActive)
      (gateway.handleFrame frame now).1.frames := by
  have noted := gateway.isActive_noteActivity now
  rw [← noted] at settled ⊢
  exact (gateway.noteActivity now).subsides_handlePayload frame now settled

/-- An activation is answered once, and it does not matter what it changes. -/
theorem subsides_activation {gateway : Gateway} {frame : Frame} {now : Time}
    (activation : frame.payloadType = .routingActivationRequest) :
    Subsides here there 2 (gateway.handleFrame frame now).1.frames := by
  simp only [handleFrame, activation, handlePayload, orRefuse]
  split
  · exact .single (Frame.settled_ofPayload (by decide) (by decide)) (Nat.lt_succ_self 1)
  · exact (GenericNackCode.subsides_toFrame _).mono (by decide)

/-- Where routing is not active, a diagnostic message is answered with another one. -/
theorem exists_denial {gateway : Gateway} {frame : Frame} {now : Time}
    (inactive : gateway.routing.isActive = false) (carried : frame.serviceData?.isSome) :
    ∃ denial, (gateway.handleFrame frame now).1.frames = [denial] ∧ denial.serviceData?.isSome := by
  obtain ⟨data, carried⟩ := Option.isSome_iff_exists.mp carried
  obtain ⟨message, carried, -⟩ := Option.map_eq_some_iff.mp carried
  obtain ⟨kind, parsed⟩ := Frame.diagnostic?_eq_some_iff.mp carried
  have noted : gateway.noteActivity now = gateway := by simp [noteActivity, inactive]
  refine ⟨gateway.diagnosticFrame message.source
    [0x7F, message.userData.headD 0, GatewayFault.routingInactive.code.code], ?_, ?_⟩
  · simp only [handleFrame, noted, kind, handlePayload, orRefuse, parsed, handleDiagnostic, inactive]
    rfl
  · rw [serviceData?_diagnosticFrame]
    rfl

end Gateway

end

/-! ## Exchanges that lose weight -/

def Party.isActive (party : Party) : Bool := party.gateway.routing.isActive

/-- What is on its way to the party keeps its weight. -/
def Party.Settled (party : Party) (there : Bool) : Prop :=
  ∀ frame ∈ party.inbox, frame.Settled party.isActive there

/-- How many frames can be taken because of what is on its way to the party. -/
def Party.weight (party : Party) : Nat := weightOf party.isActive party.inbox

namespace Party

variable {party next : Party} {frames : List Frame} {there : Bool} {now : Time}

/-- The frame that is taken weighs more than what is answered to it. -/
theorem Settled.take (settled : party.Settled there)
    (took : party.take? now = some (frames, next)) :
    next.isActive = party.isActive ∧ next.Settled there ∧
      ∃ bound, Subsides party.isActive there bound frames ∧
        party.weight = bound + 1 + next.weight := by
  obtain ⟨frame, queued, rfl, handled⟩ := take?_eq_some_iff.mp took
  unfold Settled at settled
  rw [queued, List.forall_mem_cons] at settled
  obtain ⟨settled, others⟩ := settled
  have same : next.isActive = party.isActive := by
    rw [isActive, handled]
    exact Gateway.isActive_handleFrame settled.plain
  refine ⟨same, ?_, _, party.gateway.subsides_handleFrame frame now settled, ?_⟩
  · unfold Settled
    rwa [same]
  · rw [weight, weight, same, queued, weightOf_cons]
    rfl

theorem Settled.send (settled : party.Settled there)
    (answers : ∀ frame ∈ frames, frame.Settled party.isActive there) :
    (party.send frames).Settled there :=
  List.forall_mem_append.mpr ⟨settled, answers⟩

theorem weight_send : (party.send frames).weight = party.weight + weightOf party.isActive frames :=
  weightOf_append _ _

end Party

namespace Dialogue

variable {before after : Dialogue}

structure Settled (dialogue : Dialogue) : Prop where
  first : dialogue.first.Settled dialogue.second.isActive
  second : dialogue.second.Settled dialogue.first.isActive

/-- How many frames can be taken until nothing is on its way. -/
def weight (dialogue : Dialogue) : Nat := dialogue.first.weight + dialogue.second.weight

theorem Step.settled (step : before.Step after) (settled : before.Settled) :
    after.Settled ∧ after.weight < before.weight := by
  obtain ⟨first, second⟩ := settled
  cases step with
  | first now took =>
      obtain ⟨same, onward, bound, answers, weighs⟩ := first.take took
      have sent := answers.bounded
      refine ⟨⟨onward, ?_⟩, ?_⟩
      · rw [same]
        exact second.send fun frame member => (answers.settled frame member).symm
      · simp only [weight, Party.weight_send]
        omega
  | second now took =>
      obtain ⟨same, onward, bound, answers, weighs⟩ := second.take took
      have sent := answers.bounded
      refine ⟨⟨?_, onward⟩, ?_⟩
      · rw [same]
        exact first.send fun frame member => (answers.settled frame member).symm
      · simp only [weight, Party.weight_send]
        omega

/-- The weight is a bound on how many frames are taken. -/
theorem Takes.le_weight {taken : Nat} (takes : Takes taken before after)
    (settled : before.Settled) : taken ≤ before.weight := by
  induction takes with
  | none => exact Nat.zero_le _
  | next step rest inductionHypothesis =>
      obtain ⟨settled, lighter⟩ := step.settled settled
      have bounded := inductionHypothesis settled
      omega

/-- Once the frame that opens an exchange has been taken, at most five more are. -/
theorem Step.settled_of_opening {first second : Gateway} {frame : Frame}
    (step : (opening first second frame).Step after)
    (routed : frame.serviceData? = none ∨ first.routing.isActive = true ∨
      second.routing.isActive = true) :
    after.Settled ∧ after.weight ≤ 5 := by
  by_cases activation : frame.payloadType = .routingActivationRequest
  · cases step with
    | first now took =>
        obtain ⟨_, queued, rfl, -⟩ := Party.take?_eq_some_iff.mp took
        obtain ⟨rfl, empty⟩ := List.cons.inj queued
        have answers (here there : Bool) :
            Subsides here there 2 (first.handleFrame frame now).1.frames :=
          Gateway.subsides_activation activation
        refine ⟨⟨?_, ?_⟩, ?_⟩
        · rw [Party.Settled, ← empty]
          exact nofun
        · exact Party.Settled.send nofun (answers _ _).settled
        · simp only [weight, Party.weight_send]
          rw [Party.weight, Party.weight, ← empty]
          have bounded := (answers true (Party.isActive { gateway := second })).bounded
          simp only [opening, weightOf_nil]
          omega
    | second now took => cases took
  · have settled : (opening first second frame).Settled :=
      ⟨List.forall_mem_singleton.mpr ⟨activation, routed⟩, nofun⟩
    obtain ⟨settled, lighter⟩ := step.settled settled
    have weighs : (opening first second frame).weight = frame.aftermath first.routing.isActive + 1 :=
      rfl
    have bounded := frame.aftermath_le first.routing.isActive
    exact ⟨settled, by omega⟩

end Dialogue

/-! ## The exchange that does not end -/

/-- Routing is active on neither side, and nothing is on its way but a diagnostic message. -/
structure Dialogue.Restless (dialogue : Dialogue) : Prop where
  first : dialogue.first.isActive = false
  second : dialogue.second.isActive = false
  alone : ∃ frame, frame.serviceData?.isSome ∧
    ((dialogue.first.inbox = [frame] ∧ dialogue.second.inbox = []) ∨
      (dialogue.first.inbox = [] ∧ dialogue.second.inbox = [frame]))

/-- The message is taken, and another one is on its way. -/
theorem Party.take_of_unrouted {party next : Party} {now : Time} {frame : Frame}
    {frames : List Frame} (took : party.take? now = some (frames, next))
    (inactive : party.isActive = false) (alone : party.inbox = [frame])
    (carried : frame.serviceData?.isSome) :
    next.isActive = false ∧ next.inbox = [] ∧
      ∃ denial, frames = [denial] ∧ denial.serviceData?.isSome := by
  obtain ⟨_, queued, rfl, handled⟩ := take?_eq_some_iff.mp took
  obtain ⟨rfl, empty⟩ := List.cons.inj (alone.symm.trans queued)
  refine ⟨?_, empty.symm, Gateway.exists_denial inactive carried⟩
  rw [isActive, handled, Gateway.isActive_handleFrame]
  · exact inactive
  · intro activation
    rw [Frame.serviceData?_eq_none (by rw [activation]; nofun)] at carried
    cases carried

namespace Dialogue

variable {before after : Dialogue}

theorem Restless.step (restless : before.Restless) (step : before.Step after) : after.Restless := by
  obtain ⟨first, second, frame, carried, ⟨toFirst, toSecond⟩ | ⟨toFirst, toSecond⟩⟩ := restless
  · cases step with
    | first now took =>
        obtain ⟨closed, empty, denial, rfl, denied⟩ :=
          Party.take_of_unrouted took first toFirst carried
        refine ⟨closed, second, denial, denied, .inr ⟨empty, ?_⟩⟩
        rw [Party.send, toSecond]
        rfl
    | second now took =>
        obtain ⟨_, queued, -⟩ := Party.take?_eq_some_iff.mp took
        cases toSecond.symm.trans queued
  · cases step with
    | first now took =>
        obtain ⟨_, queued, -⟩ := Party.take?_eq_some_iff.mp took
        cases toFirst.symm.trans queued
    | second now took =>
        obtain ⟨closed, empty, denial, rfl, denied⟩ :=
          Party.take_of_unrouted took second toSecond carried
        refine ⟨first, closed, denial, denied, .inl ⟨?_, empty⟩⟩
        rw [Party.send, toFirst]
        rfl

theorem Restless.takes {taken : Nat} (restless : before.Restless)
    (takes : Takes taken before after) : after.Restless := by
  induction takes with
  | none => exact restless
  | next step rest inductionHypothesis => exact inductionHypothesis (restless.step step)

theorem Restless.exists_step (restless : before.Restless) : ∃ after, before.Step after := by
  obtain ⟨-, -, frame, -, ⟨queued, -⟩ | ⟨-, queued⟩⟩ := restless
  · exact (Party.exists_take queued 0).elim fun _ took => ⟨_, .first 0 took⟩
  · exact (Party.exists_take queued 0).elim fun _ took => ⟨_, .second 0 took⟩

theorem restless_opening {first second : Gateway} {frame : Frame}
    (inactive : first.routing.isActive = false) (other : second.routing.isActive = false)
    (carried : frame.serviceData?.isSome) : (opening first second frame).Restless :=
  ⟨inactive, other, frame, carried, .inl ⟨rfl, rfl⟩⟩

end Dialogue

/-- An exchange between two gateways ends when six frames have been taken, if not earlier.  But if
routing is active at neither of them, and the exchange is opened with a diagnostic message, then it
does not end: whenever a message has been taken, there is another one to take. -/
theorem dialogue_ends_unless_both_inactive (first second : Gateway) (frame : Frame) :
    if first.routing.isActive = false ∧ second.routing.isActive = false ∧
        frame.serviceData?.isSome then
      ∀ taken dialogue, (Dialogue.opening first second frame).Takes taken dialogue →
        ∃ next, dialogue.Step next
    else
      ∀ taken dialogue, (Dialogue.opening first second frame).Takes taken dialogue → taken ≤ 6 := by
  split
  · rename_i unrouted
    obtain ⟨inactive, other, carried⟩ := unrouted
    intro taken dialogue takes
    exact ((Dialogue.restless_opening inactive other carried).takes takes).exists_step
  · rename_i routed
    intro taken dialogue takes
    cases takes with
    | none => exact Nat.zero_le 6
    | next step rest =>
        have routed : frame.serviceData? = none ∨ first.routing.isActive = true ∨
            second.routing.isActive = true := by
          cases here : first.routing.isActive <;> cases there : second.routing.isActive <;>
            simp_all
        obtain ⟨settled, light⟩ := step.settled_of_opening routed
        exact Nat.succ_le_succ (Nat.le_trans (rest.le_weight settled) light)

/-- The tester `0x0E00` asks for the identification of the gateway. -/
def sampleIdentification : Frame :=
  DiagnosticMessage.toFrame
    { source := 0x0E00, target := 0x0100, userData := [0x22, 0xF1, 0x94] }

/-- A request comes to one of two gateways of which neither has been activated: it is denied, the denial
is denied, and so on. -/
theorem denials_denied_for_ever :
    GatewayConfig.validate {} = .ok () ∧
      ∀ taken dialogue,
        (Dialogue.opening (.ofConfig {}) (.ofConfig {}) sampleIdentification).Takes taken dialogue →
          ∃ next, dialogue.Step next := by
  refine ⟨rfl, fun taken dialogue takes => ?_⟩
  exact ((Dialogue.restless_opening rfl rfl rfl).takes takes).exists_step

end DiagnosticGateway
