/-
Module: DiagnosticGateway.Proofs.Link.Delivered
Purpose: Which events of the gateway the host is told of.
Main exports:
  answered, reported, OwnerPhase.Tells, Link.Reaches.tells, Link.DeliversInOrder,
  events_delivered_unless_broken, completion_lost_with_peer
-/
import DiagnosticGateway.Proofs.Link.Move

/-!
The owner passes the events of an output on after it has written and flushed the frames.  By then the
gateway has long changed.  So if that fails, what the gateway has reported with the output is never
passed on; everything else is, in the order in which it was reported.
-/

namespace DiagnosticGateway

/-- What the gateway was asked by the owner, and with which output. -/
def LinkNote.answer? : LinkNote → Option Exchange
  | .exchanged exchange => some exchange
  | .started _ _ | .forgotten => none

/-- The exchanges of the owner with the gateway, in order. -/
def answered (journal : List LinkNote) : List Exchange := journal.filterMap LinkNote.answer?

/-- The events that the gateway has reported to the owner in exchanges, in order. -/
def reported (exchanges : List Exchange) : List GatewayEvent :=
  exchanges.flatMap fun exchange => exchange.output.events

theorem answered_append (journal notes : List LinkNote) :
    answered (journal ++ notes) = answered journal ++ answered notes := List.filterMap_append

theorem reported_concat (exchanges : List Exchange) (exchange : Exchange) :
    reported (exchanges ++ [exchange]) = reported exchanges ++ exchange.output.events := by
  simp [reported]

/-! ## What each phase of the owner has told -/

/-- All events but those of the last output have been passed on. -/
def LostLast (exchanges : List Exchange) (events : List GatewayEvent) : Prop :=
  ∃ earlier last, exchanges = earlier ++ [last] ∧ events = reported earlier

/-- The link ends.  All events have been passed on, unless an output could not be written. -/
def EndsTold (exchanges : List Exchange) (events : List GatewayEvent)
    (outcome : Except LinkFault Unit) : Prop :=
  events = reported exchanges ∨ (outcome = .error .write ∧ LostLast exchanges events)

/-- What remains to be told once there is no ticker. -/
def AfterTicker.Tells (exchanges : List Exchange) (events : List GatewayEvent) :
    AfterTicker → Prop
  | .deliver delivery => events ++ delivery.events = reported exchanges
  | .leave outcome => EndsTold exchanges events outcome

/-- What has been passed on and what the owner still has in hand is what the gateway has reported. -/
def OwnerPhase.Tells (exchanges : List Exchange) (events : List GatewayEvent) : OwnerPhase → Prop
  | .waiting | .sending _ _ => events = reported exchanges
  | .writing _ delivery =>
      ∃ earlier last, exchanges = earlier ++ [last] ∧ delivery.events = last.output.events ∧
        events = reported earlier
  | .adjusting delivery | .starting delivery | .publishing delivery | .passing delivery =>
      events ++ delivery.events = reported exchanges
  | .awaiting _ sequel | .draining sequel => sequel.Tells exchanges events
  | .leaving outcome | .stoppingReader outcome | .forgetting outcome | .ended outcome =>
      EndsTold exchanges events outcome

theorem AfterTicker.Tells.phase {exchanges : List Exchange} {events : List GatewayEvent}
    {sequel : AfterTicker} (tells : sequel.Tells exchanges events) :
    sequel.phase.Tells exchanges events := by
  cases sequel with
  | deliver | leave => exact tells

namespace Link

variable {journal notes : List LinkNote} {before after : Link}

/-- Whether there is a ticker to stop makes no difference to what is told. -/
theorem tells_releaseTicker {exchanges : List Exchange} {link : Link} {sequel : AfterTicker}
    (tells : sequel.Tells exchanges link.events) :
    (link.releaseTicker sequel).owner.Tells exchanges (link.releaseTicker sequel).events := by
  unfold releaseTicker
  split
  · exact tells
  · exact tells.phase

/-- A move that puts nothing to the gateway loses no event, unless a write fails. -/
theorem Moves.tells_of_quiet {exchanges : List Exchange} (moves : Moves before notes after)
    (quiet : answered notes = []) (tells : before.owner.Tells exchanges before.events) :
    after.owner.Tells exchanges after.events := by
  cases moves with
  | tookFrame | tookTick | tookDeactivation => cases quiet
  | aside | begun | fired | quit => exact tells
  | tookCall outside waiting =>
      rw [waiting] at tells
      exact tells
  | tookEnd outside waiting =>
      rw [waiting] at tells
      exact .inl tells
  | wrote outside writing =>
      rw [writing] at tells
      exact tells
  | wroteAll writing =>
      rw [writing] at tells
      obtain ⟨earlier, last, rfl, same, told⟩ := tells
      show _ ++ _ = _
      rw [reported_concat, told, same]
  | broke outside writing =>
      rw [writing] at tells
      obtain ⟨earlier, last, split, -, told⟩ := tells
      exact .inr ⟨rfl, earlier, last, split, told⟩
  | sent outside sending =>
      rw [sending] at tells
      exact tells
  | brokeCall outside sending =>
      rw [sending] at tells
      exact .inl tells
  | released adjusting =>
      rw [adjusting] at tells
      exact tells_releaseTicker tells
  | spared adjusting =>
      rw [adjusting] at tells
      exact tells
  | stopped awaiting =>
      rw [awaiting] at tells
      exact tells
  | dropped draining =>
      rw [draining] at tells
      exact tells
  | drained draining =>
      rw [draining] at tells
      exact tells.phase
  | started starting | unchanged starting =>
      rw [starting] at tells
      exact tells
  | published publishing =>
      rw [publishing] at tells
      exact tells
  | passed passing next =>
      rw [passing] at tells
      show (_ ++ _) ++ _ = _
      rw [← tells, next, List.append_assoc]
      rfl
  | finished outside passing empty =>
      rw [passing, OwnerPhase.Tells, empty, List.append_nil] at tells
      exact tells
  | expired passing empty =>
      rw [passing, OwnerPhase.Tells, empty, List.append_nil] at tells
      exact .inl tells
  | left leaving =>
      rw [leaving] at tells
      exact tells_releaseTicker tells
  | stoppedReader outside stopping =>
      rw [stopping] at tells
      exact tells
  | forgot outside forgetting =>
      rw [forgetting] at tells
      exact tells

/-- What the gateway is asked, it is asked by an owner that waits; and that then has the whole output
in hand. -/
theorem Moves.answered_cases (moves : Moves before notes after) :
    answered notes = [] ∨
      ∃ input sequel, before.owner = .waiting ∧
        answered notes = [before.gateway.exchange input] ∧ after.events = before.events ∧
        after.owner =
          .writing (before.gateway.step input).1.frames
            { events := (before.gateway.step input).1.events, sequel := sequel } := by
  cases moves with
  | tookFrame outside waiting | tookDeactivation outside waiting =>
      exact .inr ⟨_, _, waiting, rfl, rfl, rfl⟩
  | tookTick waiting => exact .inr ⟨_, _, waiting, rfl, rfl, rfl⟩
  | aside | begun | fired | quit | tookCall | tookEnd | wrote | wroteAll | sent | broke | brokeCall
  | released | spared | stopped | dropped | drained | started | unchanged | published | passed
  | finished | expired | left | stoppedReader | forgot => exact .inl rfl

/-- No move loses an event, unless a write fails. -/
theorem Moves.tells (moves : Moves before notes after)
    (tells : before.owner.Tells (answered journal) before.events) :
    after.owner.Tells (answered (journal ++ notes)) after.events := by
  rw [answered_append]
  rcases moves.answered_cases with quiet | ⟨input, sequel, waiting, asked, events, owner⟩
  · rw [quiet, List.append_nil]
    exact moves.tells_of_quiet quiet tells
  · rw [waiting] at tells
    rw [asked, events, owner]
    exact ⟨_, before.gateway.exchange input, rfl, rfl, tells⟩

theorem Reaches.tells {config : GatewayConfig} {link : Link}
    (reached : Reaches config journal link) : link.owner.Tells (answered journal) link.events := by
  induction reached with
  | start started => exact rfl
  | step reached acted inductionHypothesis => exact (moves_of_act acted).tells inductionHypothesis

end Link

/-! ## What the host is told -/

theorem reported_prefix {exchanges earlier : List Exchange} {last : Exchange}
    (split : exchanges = earlier ++ [last]) : reported earlier <+: reported exchanges := by
  rw [split, reported_concat]
  exact List.prefix_append _ _

theorem EndsTold.isPrefix {exchanges : List Exchange} {events : List GatewayEvent}
    {outcome : Except LinkFault Unit} (tells : EndsTold exchanges events outcome) :
    events <+: reported exchanges := by
  rcases tells with all | ⟨-, earlier, last, split, told⟩
  · exact ⟨[], (List.append_nil events).trans all⟩
  · rw [told]
    exact reported_prefix split

theorem OwnerPhase.Tells.isPrefix {exchanges : List Exchange} {events : List GatewayEvent}
    {owner : OwnerPhase} (tells : owner.Tells exchanges events) : events <+: reported exchanges := by
  cases owner with
  | waiting | sending => exact ⟨[], (List.append_nil events).trans tells⟩
  | writing =>
      obtain ⟨earlier, last, split, -, told⟩ := tells
      rw [told]
      exact reported_prefix split
  | adjusting delivery | starting delivery | publishing delivery | passing delivery =>
      exact ⟨delivery.events, tells⟩
  | awaiting number sequel | draining sequel =>
      cases sequel with
      | deliver delivery => exact ⟨delivery.events, tells⟩
      | leave outcome => exact EndsTold.isPrefix tells
  | leaving outcome | stoppingReader outcome | forgetting outcome | ended outcome =>
      exact EndsTold.isPrefix tells

/-- The host is told what the gateway reports, in order, and misses nothing but what the gateway has
reported with an output that could not be written. -/
structure Link.DeliversInOrder (journal : List LinkNote) (link : Link) : Prop where
  /-- At any time the host has been told of the first events. -/
  inOrder : link.events <+: reported (answered journal)
  /-- Whenever the owner waits, it has told the host of all. -/
  waiting : link.owner = .waiting → link.events = reported (answered journal)
  /-- When the owner is gone, it has told the host of all; or writing has failed, and it has told the
  host of all but the events of the last output. -/
  ended : ∀ outcome, link.outcome = some outcome →
    link.events = reported (answered journal) ∨
      (outcome = .error .write ∧ LostLast (answered journal) link.events)

/-- In every run of a link, whatever order its activities take their turns in and whenever writing
fails, the host is told of the events in order, and of all but those of an output that could not be
written. -/
theorem events_delivered_unless_broken {config : GatewayConfig} {journal : List LinkNote}
    {link : Link} (reached : Link.Reaches config journal link) : link.DeliversInOrder journal := by
  have tells := reached.tells
  constructor
  · exact tells.isPrefix
  · intro waiting
    rw [waiting] at tells
    exact tells
  · intro outcome concluded
    rw [Link.owner_of_outcome concluded] at tells
    exact tells

/-- Downloads need not be packages. -/
def sampleUnverified : GatewayConfig :=
  { download := { verifyPackage := false } }

/-- A frame comes from the tester, and the owner takes it and proceeds for a number of phases. -/
def sampleTaken (frame : Frame) (phases : Nat) : List LinkAction :=
  [.receive frame.encode, .read, .takeFrame] ++ List.replicate phases .proceed

/-- The tester activates routing and fills a download of four bytes. -/
def sampleFilling : List LinkAction :=
  sampleTaken (ActivationRequest.toFrame { source := 0x0E00, activationType := 0 }) 7 ++
    sampleTaken
      (DiagnosticMessage.toFrame
        { source := 0x0E00
          target := 0x0100
          userData := [0x34, 0x00, 0x44, 0, 0, 0, 0, 0, 0, 0, 4] })
      8 ++
    sampleTaken
      (DiagnosticMessage.toFrame
        { source := 0x0E00
          target := 0x0100
          userData := [0x36, 0x01, 0xAA, 0xBB, 0xCC, 0xDD] })
      7

/-- The tester completes the download and goes away, so that it cannot be answered. -/
def sampleBreaking : List LinkAction :=
  sampleFilling ++ .limitRoom 0 ::
    sampleTaken
      (DiagnosticMessage.toFrame { source := 0x0E00, target := 0x0100, userData := [0x37] }) 2 ++
    .quitTicking 0 :: List.replicate 4 .proceed

/-- Whether a link has ended because its peer could not be written to. -/
def Link.isBroken (link : Link) : Bool :=
  match link.outcome with
  | some (.error .write) => true
  | _ => false

theorem Link.outcome_of_isBroken {link : Link} (broken : link.isBroken = true) :
    link.outcome = some (.error .write) := by
  unfold isBroken at broken
  split at broken
  · assumption
  · cases broken

/-- Whether an event reports a completed download. -/
def GatewayEvent.isCompletion : GatewayEvent → Bool
  | .transferCompleted _ _ => true
  | _ => false

theorem events_delivered_unless_broken_sample :
    ∃ journal link, Link.Reaches sampleUnverified journal link ∧
      link.outcome = some (.error .write) ∧ link.events.length = 2 ∧
      link.DeliversInOrder journal := by
  have played : ((Link.ofGateway (.ofConfig sampleUnverified)).play? sampleBreaking).any
      (fun run => run.2.isBroken && decide (run.2.events.length = 2)) = true := by
    decide
  obtain ⟨⟨journal, link⟩, played, seen⟩ := (Option.any_eq_true _ _).mp played
  obtain ⟨broken, two⟩ := Bool.and_eq_true_iff.mp seen
  have reached : Link.Reaches sampleUnverified journal link :=
    Link.reaches_iff_play.mpr ⟨_, sampleBreaking, rfl, played⟩
  exact ⟨journal, link, reached, Link.outcome_of_isBroken broken, of_decide_eq_true two,
    events_delivered_unless_broken reached⟩

/-- The gateway completes the download and reports that, but the host is never told. -/
theorem completion_lost_with_peer :
    ∃ journal link image package,
      (Link.ofGateway (.ofConfig sampleUnverified)).play? sampleBreaking = some (journal, link) ∧
        Link.Reaches sampleUnverified journal link ∧ link.outcome = some (.error .write) ∧
        .transferCompleted image package ∈ reported (answered journal) ∧
        .transferCompleted image package ∉ link.events := by
  have played : ((Link.ofGateway (.ofConfig sampleUnverified)).play? sampleBreaking).any
      (fun run => run.2.isBroken &&
        ((reported (answered run.1)).any GatewayEvent.isCompletion &&
          !run.2.events.any GatewayEvent.isCompletion)) = true := by
    decide
  obtain ⟨⟨journal, link⟩, played, seen⟩ := (Option.any_eq_true _ _).mp played
  obtain ⟨broken, rest⟩ := Bool.and_eq_true_iff.mp seen
  obtain ⟨completed, untold⟩ := Bool.and_eq_true_iff.mp rest
  have reached : Link.Reaches sampleUnverified journal link :=
    Link.reaches_iff_play.mpr ⟨_, sampleBreaking, rfl, played⟩
  obtain ⟨event, member, completion⟩ := List.any_eq_true.mp completed
  cases event with
  | transferCompleted image package =>
      refine ⟨journal, link, image, package, played, reached, Link.outcome_of_isBroken broken, member,
        ?_⟩
      intro told
      rw [Bool.not_eq_true', List.any_eq_false] at untold
      exact untold _ told rfl
  | routingActivated | routingExpired | routingDeactivated | aliveCheckAnswered | vciReported
  | healthReported | readinessReported | responseReceived | routineStarted | transferStarted
  | transferFailed => cases completion

end DiagnosticGateway
