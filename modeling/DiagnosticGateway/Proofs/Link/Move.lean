/-
Module: DiagnosticGateway.Proofs.Link.Move
Purpose: Everything that an action can do to a link.
Main exports:
  LinkOutside, Link.withOutside, Link.Moves, Link.moves_of_act, Link.Reaches.gateway
-/
import DiagnosticGateway.Proofs.Link.Run

/-!
`Link.Moves` lists what an action can do to the owner, the gateway and the tickers.  What concerns
only the peer, the reader and the host is the outside of a link; a move may change it in any way.
Statements about all runs are read from the list.
-/

namespace DiagnosticGateway

/-- What of a link concerns only the peer, the reader and the host. -/
structure LinkOutside where
  reader : LinkReader
  commands : List (Nat × LinkCommand)
  calls : Nat
  replies : List (Nat × Except LinkFault Unit)
  room : Option Nat
  flushFails : Bool
  written : Octets

namespace Link

def outside (link : Link) : LinkOutside :=
  { reader := link.reader
    commands := link.commands
    calls := link.calls
    replies := link.replies
    room := link.room
    flushFails := link.flushFails
    written := link.written }

/-- A link with another outside. -/
def withOutside (link : Link) (outside : LinkOutside) : Link :=
  { link with
    reader := outside.reader
    commands := outside.commands
    calls := outside.calls
    replies := outside.replies
    room := outside.room
    flushFails := outside.flushFails
    written := outside.written }

/-- Everything that an action can do to a link, and what is noted of it. -/
inductive Moves (before : Link) : List LinkNote → Link → Prop where
  /-- The peer, the reader, the host or the clock goes on, or a call is turned away. -/
  | aside (outside : LinkOutside) {now : Time} {cancelled : Bool} (later : before.now ≤ now)
      (stays : before.cancelled = true → cancelled = true) :
      Moves before [] { before.withOutside outside with now := now, cancelled := cancelled }
  /-- A ticker begins to count. -/
  | begun {number : Nat} :
      Moves before []
        { before with
          tickers :=
            before.tickers.map fun ticker =>
              if ticker.number = number then ticker.begun before.now else ticker }
  /-- A ticker whose time has come queues a tick. -/
  | fired {ticker : Ticker} (member : ticker ∈ before.tickers)
      (due : ticker.isDue before.now = true) :
      Moves before []
        { before with
          tickers :=
            before.tickers.map fun other =>
              if other.number = ticker.number then other.ticked before.now else other
          tick := some (before.tick.getD ticker.number) }
  /-- A ticker that was told to stop, or whose link ends, stops. -/
  | quit {ticker : Ticker} (member : ticker ∈ before.tickers)
      (told : ticker.cancelled = true ∨ before.cancelled = true) :
      Moves before []
        { before with
          tickers := before.tickers.filter fun other => decide (other.number ≠ ticker.number) }
  /-- The owner takes a frame. -/
  | tookFrame {frame : Frame} (outside : LinkOutside) (waiting : before.owner = .waiting) :
      Moves before [.exchanged (before.gateway.exchange (.frame frame before.now))]
        { before.withOutside outside with
          gateway := (before.gateway.step (.frame frame before.now)).2
          owner :=
            .writing (before.gateway.step (.frame frame before.now)).1.frames
              { events := (before.gateway.step (.frame frame before.now)).1.events } }
  /-- The owner takes a tick. -/
  | tookTick {number : Nat} (waiting : before.owner = .waiting) (ticked : before.tick = some number) :
      Moves before [.exchanged (before.gateway.exchange (.poll before.now))]
        { before with
          gateway := (before.gateway.step (.poll before.now)).2
          tick := none
          owner :=
            .writing (before.gateway.step (.poll before.now)).1.frames
              { events := (before.gateway.step (.poll before.now)).1.events
                sequel :=
                  if (before.gateway.step (.poll before.now)).1.events.any
                      GatewayEvent.isExpiry then
                    .leave (.error .aliveCheckTimeout)
                  else .wait } }
  /-- The owner takes the request to deactivate. -/
  | tookDeactivation {call : Nat} (outside : LinkOutside) (waiting : before.owner = .waiting) :
      Moves before [.exchanged (before.gateway.exchange .deactivate)]
        { before.withOutside outside with
          gateway := (before.gateway.step .deactivate).2
          owner :=
            .writing (before.gateway.step .deactivate).1.frames
              { events := (before.gateway.step .deactivate).1.events, sequel := .reply call } }
  /-- The owner takes a call that has a frame for the peer. -/
  | tookCall {frame : Frame} {call : Nat} (outside : LinkOutside)
      (waiting : before.owner = .waiting) :
      Moves before [] { before.withOutside outside with owner := .sending frame call }
  /-- The owner takes what ends the link. -/
  | tookEnd {outcome : Except LinkFault Unit} (outside : LinkOutside)
      (waiting : before.owner = .waiting) :
      Moves before [] { before.withOutside outside with owner := .leaving outcome }
  /-- A frame of an output is written. -/
  | wrote {frame : Frame} {frames : List Frame} {delivery : Delivery} (outside : LinkOutside)
      (writing : before.owner = .writing (frame :: frames) delivery) :
      Moves before [] { before.withOutside outside with owner := .writing frames delivery }
  /-- All frames of an output are written and flushed. -/
  | wroteAll {delivery : Delivery} (writing : before.owner = .writing [] delivery) :
      Moves before [] { before with owner := .adjusting delivery }
  /-- The frame of a call is written and flushed. -/
  | sent {frame : Frame} {call : Nat} (outside : LinkOutside)
      (sending : before.owner = .sending frame call) :
      Moves before [] { before.withOutside outside with owner := .waiting }
  /-- An output cannot be written or flushed. -/
  | broke {frames : List Frame} {delivery : Delivery} (outside : LinkOutside)
      (writing : before.owner = .writing frames delivery) :
      Moves before [] { before.withOutside outside with owner := .leaving (.error .write) }
  /-- The frame of a call cannot be written or flushed. -/
  | brokeCall {frame : Frame} {call : Nat} (outside : LinkOutside)
      (sending : before.owner = .sending frame call) :
      Moves before [] { before.withOutside outside with owner := .leaving (.error .write) }
  /-- The ticker has to be stopped. -/
  | released {delivery : Delivery} (adjusting : before.owner = .adjusting delivery) :
      Moves before [] (before.releaseTicker (.deliver delivery))
  /-- The ticker may go on. -/
  | spared {delivery : Delivery} (adjusting : before.owner = .adjusting delivery)
      (same : delivery.reactivates = false) (active : before.gateway.routing.isActive = true) :
      Moves before [] { before with owner := .starting delivery }
  /-- A ticker that was told to stop has done so. -/
  | stopped {number : Nat} {after : AfterTicker} (awaiting : before.owner = .awaiting number after)
      (gone : ∀ ticker ∈ before.tickers, ticker.number ≠ number) :
      Moves before [] { before with owner := .draining after }
  /-- A tick that it has left is dropped. -/
  | dropped {after : AfterTicker} (draining : before.owner = .draining after) :
      Moves before [] { before with tick := none, owner := .draining after }
  /-- No tick is left. -/
  | drained {after : AfterTicker} (draining : before.owner = .draining after)
      (empty : before.tick = none) :
      Moves before [] { before with owner := after.phase }
  /-- A ticker is started. -/
  | started {delivery : Delivery} (starting : before.owner = .starting delivery)
      (active : before.gateway.routing.isActive = true) (free : before.held = none) :
      Moves before [.started before.starts before.now]
        { before.startTicker with owner := .publishing delivery }
  /-- No ticker has to be started. -/
  | unchanged {delivery : Delivery} (starting : before.owner = .starting delivery)
      (content : before.gateway.routing.isActive = false ∨ before.held ≠ none) :
      Moves before [] { before with owner := .publishing delivery }
  /-- The status is published. -/
  | published {delivery : Delivery} (publishing : before.owner = .publishing delivery) :
      Moves before []
        { before with status := .ofGateway before.gateway, owner := .passing delivery }
  /-- An event is passed on. -/
  | passed {delivery : Delivery} {event : GatewayEvent} {events : List GatewayEvent}
      (passing : before.owner = .passing delivery) (next : delivery.events = event :: events) :
      Moves before []
        { before with
          events := before.events ++ [event]
          owner := .passing { delivery with events := events } }
  /-- All events are passed on, and the owner waits again. -/
  | finished {delivery : Delivery} (outside : LinkOutside)
      (passing : before.owner = .passing delivery) (empty : delivery.events = []) :
      Moves before [] { before.withOutside outside with owner := .waiting }
  /-- All events are passed on, and the link ends. -/
  | expired {delivery : Delivery} {outcome : Except LinkFault Unit}
      (passing : before.owner = .passing delivery) (empty : delivery.events = [])
      (leave : delivery.sequel = .leave outcome) :
      Moves before [] { before with owner := .leaving outcome }
  /-- The others are told that the link ends, and so is the ticker. -/
  | left {outcome : Except LinkFault Unit} (leaving : before.owner = .leaving outcome) :
      Moves before [] ({ before with cancelled := true }.releaseTicker (.leave outcome))
  /-- The reader is stopped. -/
  | stoppedReader {outcome : Except LinkFault Unit} (outside : LinkOutside)
      (stopping : before.owner = .stoppingReader outcome) :
      Moves before [] { before.withOutside outside with owner := .forgetting outcome }
  /-- The session is forgotten. -/
  | forgot {outcome : Except LinkFault Unit} (outside : LinkOutside)
      (forgetting : before.owner = .forgetting outcome) :
      Moves before [.forgotten]
        { before.withOutside outside with
          gateway := before.gateway.reset
          status := {}
          owner := .ended outcome }

/-! ## Actions are moves -/

section

variable {before after : Link}

/-- A link of which only the outside has changed. -/
theorem Moves.ofOutside (outside : LinkOutside) : Moves before [] (before.withOutside outside) :=
  .aside outside (Nat.le_refl _) id

theorem eq_waiting_of_isWaiting (waiting : before.isWaiting = true) : before.owner = .waiting := by
  unfold isWaiting at waiting
  split at waiting
  · assumption
  · cases waiting

theorem owner_of_outcome {link : Link} {outcome : Except LinkFault Unit}
    (concluded : link.outcome = some outcome) : link.owner = .ended outcome := by
  unfold Link.outcome at concluded
  split at concluded
  · rename_i ended
    cases concluded
    exact ended
  · cases concluded

/-- What is written changes the outside only. -/
theorem exists_write_eq (link : Link) (bytes : Octets) :
    ∃ outside, (link.write bytes).2 = link.withOutside outside := by
  unfold write
  split
  · exact ⟨{ link.outside with written := link.written ++ bytes }, rfl⟩
  · rename_i room limited
    exact
      ⟨{ link.outside with
          written := link.written ++ bytes.take room
          room := some (room - bytes.length) }, rfl⟩

theorem moves_of_takeFrame (waiting : before.owner = .waiting)
    (acted : before.takeFrame? = some after) : Moves before (before.notes .takeFrame) after := by
  cases queued : before.reader.queue with
  | nil =>
      simp only [takeFrame?, queued] at acted
      simp only [notes, queued]
      split at acted
      · cases acted
        exact .tookEnd before.outside waiting
      · cases acted
  | cons head queue =>
      cases head with
      | ok frame =>
          simp only [takeFrame?, queued] at acted
          simp only [notes, queued]
          cases acted
          exact .tookFrame { before.outside with reader := { before.reader with queue := queue } }
            waiting
      | error fault =>
          simp only [takeFrame?, queued] at acted
          simp only [notes, queued]
          cases acted
          exact .tookEnd { before.outside with reader := { before.reader with queue := queue } }
            waiting

theorem moves_of_takeTick (waiting : before.owner = .waiting)
    (acted : before.takeTick? = some after) : Moves before (before.notes .takeTick) after := by
  unfold takeTick? at acted
  split at acted
  · rename_i number ticked
    cases acted
    exact .tookTick waiting ticked
  · cases acted

theorem moves_of_takeCommand (waiting : before.owner = .waiting)
    (acted : before.takeCommand? = some after) :
    Moves before (before.notes .takeCommand) after := by
  cases queued : before.commands with
  | nil =>
      simp only [takeCommand?, queued] at acted
      cases acted
  | cons head commands =>
      obtain ⟨call, command⟩ := head
      cases command with
      | sendDiagnostic target userData =>
          simp only [takeCommand?, queued] at acted
          simp only [notes, queued]
          split at acted
          · cases acted
            exact .tookCall { before.outside with commands := commands } waiting
          · rename_i fault refused
            cases acted
            exact .ofOutside
              { before.outside with
                commands := commands
                replies := before.replies ++ [(call, .error (.gateway fault))] }
      | deactivate =>
          simp only [takeCommand?, queued] at acted
          simp only [notes, queued]
          cases acted
          exact .tookDeactivation { before.outside with commands := commands } waiting

/-! ### Tickers -/

/-- A ticker that takes a turn was able to. -/
theorem turnTicker?_eq_some {number : Nat} {able : Ticker → Bool} {turn : Ticker → Ticker}
    (acted : before.turnTicker? number able turn = some after) :
    (∃ ticker ∈ before.tickers, ticker.number = number ∧ able ticker = true) ∧
      after =
        { before with
          tickers :=
            before.tickers.map fun ticker =>
              if ticker.number = number then turn ticker else ticker } := by
  unfold turnTicker? at acted
  split at acted
  · rename_i found
    cases acted
    obtain ⟨ticker, member, holds⟩ := List.any_eq_true.mp found
    obtain ⟨same, able⟩ := Bool.and_eq_true_iff.mp holds
    exact ⟨⟨ticker, member, of_decide_eq_true same, able⟩, rfl⟩
  · cases acted

theorem moves_of_beginTicking {number : Nat} (acted : before.beginTicking? number = some after) :
    Moves before [] after := by
  obtain ⟨-, rfl⟩ := turnTicker?_eq_some acted
  exact .begun

theorem moves_of_fire {number : Nat} (acted : before.fire? number = some after) :
    Moves before [] after := by
  obtain ⟨turned, took, rfl⟩ := Option.map_eq_some_iff.mp acted
  obtain ⟨⟨ticker, member, rfl, due⟩, rfl⟩ := turnTicker?_eq_some took
  exact .fired member due

theorem moves_of_quitTicking {number : Nat} (acted : before.quitTicking? number = some after) :
    Moves before [] after := by
  unfold quitTicking? at acted
  split at acted
  · rename_i found
    cases acted
    obtain ⟨ticker, member, holds⟩ := List.any_eq_true.mp found
    obtain ⟨same, told⟩ := Bool.and_eq_true_iff.mp holds
    cases of_decide_eq_true same
    exact .quit member (Bool.or_eq_true_iff.mp told)
  · cases acted

/-! ### The reader and the host -/

theorem moves_of_read (acted : before.read? = some after) : Moves before [] after := by
  unfold read? at acted
  dsimp only at acted
  split at acted
  · cases acted
  split at acted
  · cases acted
    exact .ofOutside { before.outside with reader := _ }
  · cases acted
    exact .ofOutside { before.outside with reader := _ }
  · split at acted
    · cases acted
      exact .ofOutside { before.outside with reader := _ }
    · cases acted

theorem moves_of_call {command : LinkCommand} (acted : before.call? command = some after) :
    Moves before [] after := by
  unfold call? at acted
  dsimp only at acted
  split at acted
  · split at acted
    · cases acted
      exact .ofOutside { before.outside with calls := _, commands := _ }
    · cases acted
  · cases acted
    exact .ofOutside { before.outside with calls := _, replies := _ }

/-! ### The owner -/

/-- A failed write ends the link, on whose behalf it ever was. -/
theorem moves_of_writeFailed {frames : List Frame} {delivery : Delivery} (outside : LinkOutside)
    (writing : before.owner = .writing frames delivery) :
    Moves before [] ((before.withOutside outside).writeFailed delivery.sequel) := by
  cases sequel : delivery.sequel with
  | wait | leave outcome => exact .broke outside writing
  | reply call =>
      exact .broke { outside with replies := outside.replies ++ [(call, .error .closed)] } writing

theorem moves_of_writing {frames : List Frame} {delivery : Delivery}
    (writing : before.owner = .writing frames delivery)
    (acted : before.proceed? = some after) : Moves before [] after := by
  cases frames with
  | nil =>
      simp only [proceed?, writing] at acted
      cases acted
      split
      · exact moves_of_writeFailed before.outside writing
      · exact .wroteAll writing
  | cons frame frames =>
      obtain ⟨outside, written⟩ := exists_write_eq before frame.encode
      simp only [proceed?, writing] at acted
      cases acted
      rw [written]
      split
      · exact .wrote outside writing
      · exact moves_of_writeFailed outside writing

theorem moves_of_sending {frame : Frame} {call : Nat} (sending : before.owner = .sending frame call)
    (acted : before.proceed? = some after) : Moves before [] after := by
  obtain ⟨outside, written⟩ := exists_write_eq before frame.encode
  unfold proceed? at acted
  rw [sending] at acted
  dsimp only at acted
  cases acted
  rw [written]
  split
  · exact .sent { outside with replies := _ } sending
  · exact .brokeCall { outside with replies := _ } sending

theorem moves_of_adjusting {delivery : Delivery} (adjusting : before.owner = .adjusting delivery)
    (acted : before.proceed? = some after) : Moves before [] after := by
  unfold proceed? at acted
  rw [adjusting] at acted
  cases acted
  split
  · exact .released adjusting
  · rename_i spared
    obtain ⟨same, active⟩ := Bool.or_eq_false_iff.mp (Bool.eq_false_iff.mpr spared)
    exact .spared adjusting same (by simpa using active)

theorem moves_of_passing {delivery : Delivery} (passing : before.owner = .passing delivery)
    (acted : before.proceed? = some after) : Moves before [] after := by
  unfold proceed? at acted
  rw [passing] at acted
  dsimp only at acted
  split at acted
  · rename_i event events next
    cases acted
    exact .passed passing next
  · rename_i empty
    cases acted
    cases sequel : delivery.sequel with
    | wait => exact .finished before.outside passing empty
    | reply call => exact .finished { before.outside with replies := _ } passing empty
    | leave outcome => exact .expired passing empty sequel

theorem moves_of_proceed (acted : before.proceed? = some after) :
    Moves before (before.notes .proceed) after := by
  unfold notes
  cases owner : before.owner with
  | writing frames delivery => exact moves_of_writing owner acted
  | sending frame call => exact moves_of_sending owner acted
  | adjusting delivery => exact moves_of_adjusting owner acted
  | passing delivery => exact moves_of_passing owner acted
  | awaiting number sequel =>
      rw [proceed?, owner] at acted
      dsimp only at acted
      split at acted
      · cases acted
      · rename_i gone
        cases acted
        exact .stopped owner (by simpa using gone)
  | draining sequel =>
      rw [proceed?, owner] at acted
      dsimp only at acted
      split at acted
      · cases acted
        exact .dropped owner
      · rename_i empty
        cases acted
        exact .drained owner empty
  | starting delivery =>
      rw [proceed?, owner] at acted
      cases acted
      dsimp only
      split
      · rename_i start
        obtain ⟨active, free⟩ := Bool.and_eq_true_iff.mp start
        exact .started owner active (Option.isNone_iff_eq_none.mp free)
      · rename_i content
        refine .unchanged owner ?_
        rcases Bool.and_eq_false_iff.mp (Bool.eq_false_iff.mpr content) with inactive | held
        · exact .inl inactive
        · exact .inr (Option.isSome_iff_ne_none.mp (by simpa using held))
  | publishing delivery =>
      rw [proceed?, owner] at acted
      cases acted
      exact .published owner
  | leaving outcome =>
      rw [proceed?, owner] at acted
      cases acted
      exact .left owner
  | stoppingReader outcome =>
      rw [proceed?, owner] at acted
      cases acted
      exact
        .stoppedReader { before.outside with reader := { before.reader with stopped := true } } owner
  | forgetting outcome =>
      rw [proceed?, owner] at acted
      cases acted
      exact
        .forgot
          { before.outside with
            reader := { before.reader with queue := [] }
            commands := []
            replies := _ }
          owner
  | waiting =>
      rw [proceed?, owner] at acted
      cases acted
  | ended outcome =>
      rw [proceed?, owner] at acted
      cases acted

/-- Every action is a move. -/
theorem moves_of_act {action : LinkAction} (acted : before.act? action = some after) :
    Moves before (before.notes action) after := by
  cases action with
  | receive bytes =>
      unfold act? at acted
      dsimp only at acted
      split at acted
      · cases acted
      · cases acted
        exact .ofOutside { before.outside with reader := _ }
  | endInput =>
      cases acted
      exact .ofOutside { before.outside with reader := _ }
  | limitRoom room =>
      cases acted
      exact .ofOutside { before.outside with room := _ }
  | breakFlush =>
      cases acted
      exact .ofOutside { before.outside with flushFails := true }
  | wait duration =>
      cases acted
      exact .aside before.outside (Nat.le_add_right _ _) id
  | read => exact moves_of_read acted
  | quitReading =>
      unfold act? at acted
      dsimp only at acted
      split at acted
      · cases acted
        exact .ofOutside { before.outside with reader := _ }
      · cases acted
  | beginTicking number => exact moves_of_beginTicking acted
  | fire number => exact moves_of_fire acted
  | quitTicking number => exact moves_of_quitTicking acted
  | call command => exact moves_of_call acted
  | cancel =>
      cases acted
      exact .aside before.outside (Nat.le_refl _) fun _ => rfl
  | takeFrame =>
      unfold act? at acted
      dsimp only at acted
      split at acted
      · rename_i waiting
        exact moves_of_takeFrame (eq_waiting_of_isWaiting waiting) acted
      · cases acted
  | takeTick =>
      unfold act? at acted
      dsimp only at acted
      split at acted
      · rename_i waiting
        exact moves_of_takeTick (eq_waiting_of_isWaiting waiting) acted
      · cases acted
  | takeCommand =>
      unfold act? at acted
      dsimp only at acted
      split at acted
      · rename_i waiting
        exact moves_of_takeCommand (eq_waiting_of_isWaiting waiting) acted
      · cases acted
  | takeCancel =>
      unfold act? at acted
      dsimp only at acted
      split at acted
      · rename_i waiting
        unfold takeCancel? at acted
        split at acted
        · cases acted
          exact .tookEnd before.outside (eq_waiting_of_isWaiting waiting)
        · cases acted
      · cases acted
  | proceed => exact moves_of_proceed acted

end

end Link

/-- What a note says about the gateway. -/
def LinkNote.exchange? : LinkNote → Option Exchange
  | .exchanged exchange => some exchange
  | .started _ _ => none
  | .forgotten => some { input := .reset, output := .none }

namespace Link

/-! ## The gateway -/

@[simp] theorem gateway_releaseTicker (link : Link) (after : AfterTicker) :
    (link.releaseTicker after).gateway = link.gateway := by
  unfold releaseTicker
  split <;> rfl

/-- A move leaves the gateway alone, or gives it an input and notes that. -/
theorem Moves.gateway {before after : Link} {notes : List LinkNote}
    (moves : Moves before notes after) :
    (notes.filterMap LinkNote.exchange? = [] ∧ after.gateway = before.gateway) ∨
      ∃ input, notes.filterMap LinkNote.exchange? = [before.gateway.exchange input] ∧
        after.gateway = (before.gateway.step input).2 := by
  cases moves with
  | tookFrame | tookTick | tookDeactivation => exact .inr ⟨_, rfl, rfl⟩
  | forgot => exact .inr ⟨.reset, rfl, rfl⟩
  | released | left => exact .inl ⟨rfl, gateway_releaseTicker ..⟩
  | aside | begun | fired | quit | tookCall | tookEnd | wrote | wroteAll | sent | broke | brokeCall
  | spared | stopped | dropped | drained | started | unchanged | published | passed | finished
  | expired | stoppedReader => exact .inl ⟨rfl, rfl⟩

/-- The journal of a link contains the history of its gateway. -/
theorem Reaches.gateway {config : GatewayConfig} {journal : List LinkNote} {link : Link}
    (reached : Reaches config journal link) :
    DiagnosticGateway.Reaches config (journal.filterMap LinkNote.exchange?) link.gateway := by
  induction reached with
  | start started => exact .start started
  | step reached acted inductionHypothesis =>
      rw [List.filterMap_append]
      rcases (moves_of_act acted).gateway with ⟨quiet, same⟩ | ⟨input, noted, stepped⟩
      · rwa [quiet, List.append_nil, same]
      · rw [noted, stepped]
        exact inductionHypothesis.step input

end Link

end DiagnosticGateway
