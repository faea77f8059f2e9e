/-
Module: DiagnosticGateway.Proofs.Link.Desk
Purpose: What the owner has to write, and where the calls of the host are.
Main exports:
  Dispatch, Link.dispatches, dispatched, wire, requested, asked, LinkDesk, LinkDesk.Step,
  Link.deskStep_of_act
-/
import DiagnosticGateway.Proofs.Link.Delivered
import DiagnosticGateway.Proofs.Link.Trace

/-!
The owner writes the frames of one output, or the frame of one call, before it takes anything else.
A call waits in the queue, is in the owner's hand, or has returned.  `LinkDesk` is what of a link
concerns this, and `LinkDesk.Step` lists what an action can do to it.
-/

namespace DiagnosticGateway

/-! ## What is read from a run -/

/-- Something that the owner takes on to write. -/
inductive Dispatch where
  /-- The frames of an output. -/
  | output (exchange : Exchange)
  /-- The frame of a call. -/
  | request (call : Nat) (frame : Frame)

namespace Dispatch

def frames : Dispatch → List Frame
  | .output exchange => exchange.output.frames
  | .request _ frame => [frame]

/-- The call that the owner acts for. -/
def call? : Dispatch → Option Nat
  | .output _ => none
  | .request call _ => some call

/-- The exchange with the gateway that gave the output. -/
def exchange? : Dispatch → Option Exchange
  | .output exchange => some exchange
  | .request _ _ => none

end Dispatch

/-- The call that the owner takes on with an action, if its request has a frame. -/
def Link.request? (link : Link) : LinkAction → Option Dispatch
  | .takeCommand =>
      match link.commands with
      | (call, .sendDiagnostic target userData) :: _ =>
          match link.gateway.diagnosticRequest target userData with
          | .ok frame => some (.request call frame)
          | .error _ => none
      | (_, .deactivate) :: _ | [] => none
  | _ => none

/-- What the owner takes on to write with an action. -/
def Link.dispatches (link : Link) (action : LinkAction) : List Dispatch :=
  (answered (link.notes action)).map .output ++ (link.request? action).toList

/-- What the owner has taken on to write, in order. -/
def dispatched (steps : List LinkStep) : List Dispatch :=
  steps.flatMap fun step => step.link.dispatches step.action

/-- The bytes of what the owner takes on. -/
def wire (dispatches : List Dispatch) : Octets :=
  (dispatches.flatMap Dispatch.frames).flatMap Frame.encode

/-- The calls whose requests the owner has taken on. -/
def requested (dispatches : List Dispatch) : List Nat := dispatches.filterMap Dispatch.call?

/-- What the host asks for with an action. -/
def LinkAction.command? : LinkAction → Option LinkCommand
  | .call command => some command
  | _ => none

/-- Whether an action is one of the peer, the reader, a ticker or the clock, or the request to end. -/
def LinkAction.isAside : LinkAction → Bool
  | .receive _ | .endInput | .limitRoom _ | .breakFlush | .wait _ | .read | .quitReading
  | .beginTicking _ | .fire _ | .quitTicking _ | .cancel => true
  | .call _ | .takeFrame | .takeTick | .takeCommand | .takeCancel | .proceed => false

/-- What the host has asked for.  Calls are numbered in this order. -/
def asked (steps : List LinkStep) : List LinkCommand :=
  steps.filterMap fun step => step.action.command?

theorem dispatched_concat (steps : List LinkStep) (step : LinkStep) :
    dispatched (steps ++ [step]) = dispatched steps ++ step.link.dispatches step.action := by
  simp [dispatched]

theorem asked_concat (steps : List LinkStep) (step : LinkStep) :
    asked (steps ++ [step]) = asked steps ++ step.action.command?.toList := by
  simp [asked, List.filterMap_append, List.filterMap_cons]
  cases step.action.command? <;> rfl

/-- A call is not among the exchanges. -/
theorem Link.filterMap_dispatches (link : Link) (action : LinkAction) :
    (link.dispatches action).filterMap Dispatch.exchange? = answered (link.notes action) := by
  have calls : (link.request? action).toList.filterMap Dispatch.exchange? = [] := by
    unfold request?
    repeat' split
    all_goals rfl
  rw [dispatches, List.filterMap_append, calls, List.append_nil, List.filterMap_map]
  exact List.filterMap_some

/-- The outputs that the owner takes on are those that the gateway has given it. -/
theorem filterMap_dispatched (steps : List LinkStep) :
    (dispatched steps).filterMap Dispatch.exchange? = answered (journal steps) := by
  induction steps with
  | nil => rfl
  | cons step steps inductionHypothesis =>
      rw [journal, List.flatMap_cons, answered_append, ← Link.filterMap_dispatches]
      rw [dispatched, List.flatMap_cons, List.filterMap_append]
      exact congrArg _ inductionHypothesis

theorem wire_append (earlier later : List Dispatch) :
    wire (earlier ++ later) = wire earlier ++ wire later := by
  simp [wire]

theorem requested_append (earlier later : List Dispatch) :
    requested (earlier ++ later) = requested earlier ++ requested later := List.filterMap_append

/-! ## What an action does to the desk -/

def Sequel.call? : Sequel → Option Nat
  | .reply call => some call
  | .wait | .leave _ => none

/-- The frames that the owner still has to write. -/
def OwnerPhase.unwritten : OwnerPhase → List Frame
  | .writing frames _ => frames
  | .sending frame _ => [frame]
  | _ => []

/-- The call that the owner acts for. -/
def OwnerPhase.call? : OwnerPhase → Option Nat
  | .sending _ call => some call
  | owner => owner.sequel?.bind Sequel.call?

/-- Whether the owner is gone. -/
def OwnerPhase.isEnded : OwnerPhase → Bool
  | .ended _ => true
  | _ => false

/-- What of a link concerns what the owner writes, and the calls of the host. -/
structure LinkDesk where
  /-- Frames that the owner still has to write. -/
  unwritten : List Frame
  /-- The call that the owner acts for. -/
  inHand : Option Nat
  /-- How the link ends, if it does. -/
  ending : Option (Except LinkFault Unit)
  /-- Whether the owner is gone. -/
  ended : Bool
  commands : List (Nat × LinkCommand)
  calls : Nat
  replies : List (Nat × Except LinkFault Unit)
  written : Octets

def Link.desk (link : Link) : LinkDesk :=
  { unwritten := link.owner.unwritten
    inHand := link.owner.call?
    ending := link.owner.ending?
    ended := link.owner.isEnded
    commands := link.commands
    calls := link.calls
    replies := link.replies
    written := link.written }

/-- The owner has nothing to do. -/
structure LinkDesk.Idle (desk : LinkDesk) : Prop where
  written : desk.unwritten = []
  free : desk.inHand = none
  going : desk.ending = none

/-- The frame of a request that the host sends from the given address. -/
def requestFrame (address target : UInt16) (userData : Octets) : Frame :=
  DiagnosticMessage.toFrame { source := address, target := target, userData := userData }

/-- Why the gateway refuses a request of the host. -/
def GatewayFault.RefusesRequest (fault : GatewayFault) : Prop :=
  fault = .routingInactive ∨ fault = .uds .emptyMessage

/-- Everything that an action can do to the desk, with what the host asks for and what the owner takes
on to write. -/
inductive LinkDesk.Step (address : UInt16) (before : LinkDesk) :
    Option LinkCommand → List Dispatch → LinkDesk → Prop where
  /-- The action concerns something else. -/
  | aside : Step address before none [] before
  /-- The host makes a call. -/
  | called (command : LinkCommand) (running : before.ended = false) :
      Step address before (some command) []
        { before with
          commands := before.commands ++ [(before.calls, command)]
          calls := before.calls + 1 }
  /-- The host makes a call when the owner is gone. -/
  | turnedAway (command : LinkCommand) (ended : before.ended = true) :
      Step address before (some command) []
        { before with
          calls := before.calls + 1
          replies := before.replies ++ [(before.calls, .error .closed)] }
  /-- The owner puts a frame or a tick to the gateway. -/
  | exchanged (exchange : Exchange) (idle : before.Idle) :
      Step address before none [.output exchange]
        { before with unwritten := exchange.output.frames }
  /-- The owner takes the request to deactivate. -/
  | tookDeactivation {call : Nat} {commands : List (Nat × LinkCommand)} (exchange : Exchange)
      (idle : before.Idle) (queued : before.commands = (call, .deactivate) :: commands) :
      Step address before none [.output exchange]
        { before with
          unwritten := exchange.output.frames
          inHand := some call
          commands := commands }
  /-- The owner takes a request that has a frame. -/
  | tookRequest {call : Nat} {target : UInt16} {userData : Octets}
      {commands : List (Nat × LinkCommand)} (idle : before.Idle)
      (queued : before.commands = (call, .sendDiagnostic target userData) :: commands) :
      Step address before none [.request call (requestFrame address target userData)]
        { before with
          unwritten := [requestFrame address target userData]
          inHand := some call
          commands := commands }
  /-- The owner takes a request that the gateway refuses. -/
  | refused {call : Nat} {target : UInt16} {userData : Octets} {fault : GatewayFault}
      {commands : List (Nat × LinkCommand)} (idle : before.Idle)
      (queued : before.commands = (call, .sendDiagnostic target userData) :: commands)
      (refuses : fault.RefusesRequest) :
      Step address before none []
        { before with
          commands := commands
          replies := before.replies ++ [(call, .error (.gateway fault))] }
  /-- A frame is written. -/
  | wrote {frame : Frame} {frames : List Frame} (going : before.ending = none)
      (next : before.unwritten = frame :: frames) :
      Step address before none []
        { before with unwritten := frames, written := before.written ++ frame.encode }
  /-- All is written, and the call returns. -/
  | replied {call : Nat} {written : Octets} (going : before.ending = none)
      (hand : before.inHand = some call)
      (whole : written = before.written ++ before.unwritten.flatMap Frame.encode) :
      Step address before none []
        { before with
          unwritten := []
          inHand := none
          replies := before.replies ++ [(call, .ok ())]
          written := written }
  /-- Writing fails somewhere, or flushing does. -/
  | broke {part : Octets} (going : before.ending = none)
      (front : part <+: before.unwritten.flatMap Frame.encode) :
      Step address before none []
        { before with
          unwritten := []
          inHand := none
          ending := some (.error .write)
          replies := before.replies ++ before.inHand.toList.map fun call => (call, .error .closed)
          written := before.written ++ part }
  /-- The owner takes what ends the link. -/
  | left (outcome : Except LinkFault Unit) (idle : before.Idle) :
      Step address before none [] { before with ending := some outcome }
  /-- The owner turns away the calls that wait, and is gone. -/
  | forgot (leaving : before.ending.isSome) :
      Step address before none []
        { before with
          ended := true
          commands := []
          replies := before.replies ++ before.commands.map fun entry => (entry.1, .error .closed) }

namespace Link

variable {before after : Link} {address : UInt16}

@[simp] theorem desk_releaseTicker (link : Link) (sequel : AfterTicker) :
    (link.releaseTicker sequel).desk = { link with owner := sequel.phase }.desk := by
  unfold releaseTicker
  split
  · cases sequel <;> rfl
  · rfl

theorem desk_of_waiting (waiting : before.owner = .waiting) :
    before.desk =
      { unwritten := []
        inHand := none
        ending := none
        ended := false
        commands := before.commands
        calls := before.calls
        replies := before.replies
        written := before.written } := by
  rw [desk, waiting]
  rfl

theorem desk_of_writing {frames : List Frame} {delivery : Delivery}
    (writing : before.owner = .writing frames delivery) :
    before.desk =
      { unwritten := frames
        inHand := delivery.sequel.call?
        ending := none
        ended := false
        commands := before.commands
        calls := before.calls
        replies := before.replies
        written := before.written } := by
  rw [desk, writing]
  rfl

theorem desk_of_passing {delivery : Delivery} (passing : before.owner = .passing delivery) :
    before.desk =
      { unwritten := []
        inHand := delivery.sequel.call?
        ending := none
        ended := false
        commands := before.commands
        calls := before.calls
        replies := before.replies
        written := before.written } := by
  rw [desk, passing]
  rfl

/-- What leaves the desk as it is. -/
theorem deskStep_of_eq (same : after.desk = before.desk) :
    LinkDesk.Step address before.desk none [] after.desk := by
  rw [same]
  exact .aside

/-- Writing takes the front of the bytes, and all of them if it does not fail. -/
theorem exists_write_eq_append (link : Link) (bytes : Octets) :
    ∃ part room, part <+: bytes ∧
      (link.write bytes).2 = { link with written := link.written ++ part, room := room } ∧
      ((link.write bytes).1 = true → part = bytes) := by
  unfold write
  split
  · exact ⟨bytes, link.room, List.prefix_refl _, rfl, fun _ => rfl⟩
  · rename_i room limited
    refine ⟨bytes.take room, _, List.take_prefix _ _, rfl, fun taken => ?_⟩
    exact List.take_of_length_le (of_decide_eq_true taken)

/-- A failed write ends the link, and the call that the owner acts for returns. -/
theorem desk_writeFailed (link : Link) (sequel : Sequel) :
    (link.writeFailed sequel).desk =
      { unwritten := []
        inHand := none
        ending := some (.error .write)
        ended := false
        commands := link.commands
        calls := link.calls
        replies := link.replies ++ sequel.call?.toList.map fun call => (call, .error .closed)
        written := link.written } := by
  cases sequel with
  | wait | leave outcome =>
      simp only [Sequel.call?, Option.toList_none, List.map_nil, List.append_nil]
      rfl
  | reply call => rfl

theorem isRunning_eq (link : Link) : link.isRunning = !link.owner.isEnded := by
  unfold isRunning outcome
  cases link.owner <;> rfl

theorem diagnosticRequest_eq_ok {gateway : Gateway} {target : UInt16} {userData : Octets}
    {frame : Frame} (granted : gateway.diagnosticRequest target userData = .ok frame) :
    frame = requestFrame gateway.localAddress target userData := by
  unfold Gateway.diagnosticRequest at granted
  split at granted
  · split at granted
    · cases granted
      rfl
    · cases granted
  · cases granted

theorem diagnosticRequest_eq_error {gateway : Gateway} {target : UInt16} {userData : Octets}
    {fault : GatewayFault} (denied : gateway.diagnosticRequest target userData = .error fault) :
    fault.RefusesRequest := by
  unfold Gateway.diagnosticRequest at denied
  split at denied
  · split at denied
    · cases denied
    · rename_i reason refused
      cases denied
      obtain ⟨-, rfl⟩ := UdsMessage.decode_eq_error_iff.mp refused
      exact .inr rfl
  · cases denied
    exact .inl rfl

/-! ## Actions are steps -/

theorem deskStep_of_call {command : LinkCommand} (acted : before.call? command = some after) :
    LinkDesk.Step address before.desk (some command) [] after.desk := by
  unfold call? at acted
  dsimp only at acted
  rw [isRunning_eq] at acted
  cases ended : before.owner.isEnded with
  | false =>
      simp only [ended, Bool.not_false, if_true] at acted
      split at acted
      · cases acted
        exact .called command ended
      · cases acted
  | true =>
      simp only [ended, Bool.not_true, Bool.false_eq_true, if_false] at acted
      cases acted
      exact .turnedAway command ended

theorem idle_of_waiting (waiting : before.owner = .waiting) : before.desk.Idle := by
  rw [desk_of_waiting waiting]
  exact ⟨rfl, rfl, rfl⟩

/-- The owner takes something to the gateway that no call has asked for. -/
theorem deskStep_of_exchange {exchange : Exchange} {delivery : Delivery}
    (waiting : before.owner = .waiting)
    (taken : after.owner = .writing exchange.output.frames delivery)
    (free : delivery.sequel.call? = none) (commands : after.commands = before.commands)
    (calls : after.calls = before.calls) (replies : after.replies = before.replies)
    (written : after.written = before.written) :
    LinkDesk.Step address before.desk none [.output exchange] after.desk := by
  rw [desk_of_waiting waiting, desk_of_writing taken, free, commands, calls, replies, written]
  exact .exchanged exchange ⟨rfl, rfl, rfl⟩

theorem deskStep_of_takeFrame (waiting : before.owner = .waiting)
    (acted : before.takeFrame? = some after) :
    LinkDesk.Step address before.desk none (before.dispatches .takeFrame) after.desk := by
  cases queued : before.reader.queue with
  | nil =>
      simp only [takeFrame?, queued] at acted
      simp only [dispatches, notes, queued]
      split at acted
      · cases acted
        rw [desk_of_waiting waiting]
        exact .left (.ok ()) ⟨rfl, rfl, rfl⟩
      · cases acted
  | cons head queue =>
      cases head with
      | ok frame =>
          simp only [takeFrame?, queued] at acted
          simp only [dispatches, notes, queued]
          cases acted
          exact deskStep_of_exchange waiting rfl rfl rfl rfl rfl rfl
      | error fault =>
          simp only [takeFrame?, queued] at acted
          simp only [dispatches, notes, queued]
          cases acted
          rw [desk_of_waiting waiting]
          exact .left (.error (.framing fault)) ⟨rfl, rfl, rfl⟩

theorem deskStep_of_takeTick (waiting : before.owner = .waiting)
    (acted : before.takeTick? = some after) :
    LinkDesk.Step address before.desk none (before.dispatches .takeTick) after.desk := by
  unfold takeTick? at acted
  split at acted
  · cases acted
    have free : Sequel.call?
        (if (before.gateway.step (.poll before.now)).1.events.any GatewayEvent.isExpiry then
          .leave (.error .aliveCheckTimeout)
        else .wait) = none := by
      split <;> rfl
    exact deskStep_of_exchange waiting rfl free rfl rfl rfl rfl
  · cases acted

theorem deskStep_of_takeCommand (waiting : before.owner = .waiting)
    (acted : before.takeCommand? = some after) :
    LinkDesk.Step before.gateway.localAddress before.desk none (before.dispatches .takeCommand)
      after.desk := by
  cases queued : before.commands with
  | nil =>
      simp only [takeCommand?, queued] at acted
      cases acted
  | cons head commands =>
      obtain ⟨call, command⟩ := head
      cases command with
      | sendDiagnostic target userData =>
          cases asked : before.gateway.diagnosticRequest target userData with
          | ok frame =>
              simp only [takeCommand?, queued, asked] at acted
              simp only [dispatches, notes, request?, queued, asked]
              cases acted
              rw [desk_of_waiting waiting, diagnosticRequest_eq_ok asked]
              exact .tookRequest ⟨rfl, rfl, rfl⟩ queued
          | error fault =>
              simp only [takeCommand?, queued, asked] at acted
              simp only [dispatches, notes, request?, queued, asked]
              cases acted
              exact .refused (idle_of_waiting waiting) queued (diagnosticRequest_eq_error asked)
      | deactivate =>
          simp only [takeCommand?, queued] at acted
          simp only [dispatches, notes, request?, queued]
          cases acted
          rw [desk_of_waiting waiting]
          exact .tookDeactivation (before.gateway.exchange .deactivate) ⟨rfl, rfl, rfl⟩ queued

/-- Writing fails at some place in the bytes that the owner has to write. -/
theorem deskStep_of_writeFailed {link : Link} {sequel : Sequel} {part : Octets}
    (going : before.owner.ending? = none) (hand : before.owner.call? = sequel.call?)
    (front : part <+: before.owner.unwritten.flatMap Frame.encode)
    (commands : link.commands = before.commands) (calls : link.calls = before.calls)
    (replies : link.replies = before.replies) (written : link.written = before.written ++ part) :
    LinkDesk.Step address before.desk none [] (link.writeFailed sequel).desk := by
  have ended : before.owner.isEnded = false := by
    cases owner : before.owner with
    | ended outcome =>
        rw [owner] at going
        cases going
    | _ => rfl
  have broken : LinkDesk.Step address before.desk none [] _ := .broke going front
  rw [desk_writeFailed, commands, calls, replies, written, ← hand, ← ended]
  exact broken

theorem deskStep_of_writing {frames : List Frame} {delivery : Delivery}
    (writing : before.owner = .writing frames delivery) (acted : before.proceed? = some after) :
    LinkDesk.Step address before.desk none [] after.desk := by
  have going : before.owner.ending? = none := by rw [writing]; rfl
  have hand : before.owner.call? = delivery.sequel.call? := by rw [writing]; rfl
  cases frames with
  | nil =>
      simp only [proceed?, writing] at acted
      cases acted
      split
      · exact deskStep_of_writeFailed going hand List.nil_prefix rfl rfl rfl (by simp)
      · apply deskStep_of_eq
        rw [desk, desk, writing]
        rfl
  | cons frame frames =>
      obtain ⟨part, room, front, wrote, whole⟩ := before.exists_write_eq_append frame.encode
      simp only [proceed?, writing] at acted
      cases acted
      rw [wrote]
      split
      · rename_i taken
        rw [desk_of_writing writing, desk_of_writing rfl, whole taken]
        exact .wrote rfl rfl
      · have front : part <+: before.owner.unwritten.flatMap Frame.encode := by
          rw [writing]
          exact front.trans (List.prefix_append _ _)
        exact deskStep_of_writeFailed going hand front rfl rfl rfl rfl

theorem deskStep_of_sending {frame : Frame} {call : Nat}
    (sending : before.owner = .sending frame call) (acted : before.proceed? = some after) :
    LinkDesk.Step address before.desk none [] after.desk := by
  have going : before.owner.ending? = none := by rw [sending]; rfl
  have hand : before.owner.call? = (Sequel.reply call).call? := by rw [sending]; rfl
  obtain ⟨part, room, front, wrote, whole⟩ := before.exists_write_eq_append frame.encode
  rw [proceed?, sending] at acted
  dsimp only at acted
  cases acted
  rw [wrote]
  split
  · rename_i taken
    obtain ⟨taken, flushed⟩ := Bool.and_eq_true_iff.mp taken
    rw [whole taken, desk, sending]
    exact .replied rfl rfl (congrArg _ (List.flatMap_singleton _ frame).symm)
  · have front : part <+: before.owner.unwritten.flatMap Frame.encode := by
      rw [sending]
      exact front.trans (List.prefix_append _ _)
    exact deskStep_of_writeFailed going hand front rfl rfl rfl rfl

theorem deskStep_of_passing {delivery : Delivery} (passing : before.owner = .passing delivery)
    (acted : before.proceed? = some after) :
    LinkDesk.Step address before.desk none [] after.desk := by
  rw [proceed?, passing] at acted
  dsimp only at acted
  split at acted
  · cases acted
    apply deskStep_of_eq
    rw [desk, desk, passing]
    rfl
  · cases acted
    rw [desk_of_passing passing]
    cases delivery.sequel with
    | wait => exact .aside
    | reply call => exact .replied rfl rfl (List.append_nil _).symm
    | leave outcome => exact .left outcome ⟨rfl, rfl, rfl⟩

theorem deskStep_of_proceed (acted : before.proceed? = some after) :
    LinkDesk.Step address before.desk none [] after.desk := by
  cases owner : before.owner with
  | waiting | ended outcome =>
      rw [proceed?, owner] at acted
      cases acted
  | writing frames delivery => exact deskStep_of_writing owner acted
  | sending frame call => exact deskStep_of_sending owner acted
  | adjusting delivery =>
      rw [proceed?, owner] at acted
      cases acted
      apply deskStep_of_eq
      split
      · rw [desk_releaseTicker, desk, desk, owner]
        rfl
      · rw [desk, desk, owner]
        rfl
  | awaiting number sequel =>
      rw [proceed?, owner] at acted
      dsimp only at acted
      split at acted
      · cases acted
      · cases acted
        apply deskStep_of_eq
        rw [desk, desk, owner]
        rfl
  | draining sequel =>
      rw [proceed?, owner] at acted
      dsimp only at acted
      split at acted
      · cases acted
        apply deskStep_of_eq
        rw [desk, desk, owner]
      · cases acted
        apply deskStep_of_eq
        rw [desk, desk, owner]
        cases sequel <;> rfl
  | starting delivery =>
      rw [proceed?, owner] at acted
      cases acted
      apply deskStep_of_eq
      rw [desk, desk, owner]
      split <;> rfl
  | publishing delivery =>
      rw [proceed?, owner] at acted
      cases acted
      apply deskStep_of_eq
      rw [desk, desk, owner]
      rfl
  | passing delivery => exact deskStep_of_passing owner acted
  | leaving outcome =>
      rw [proceed?, owner] at acted
      cases acted
      apply deskStep_of_eq
      rw [desk_releaseTicker, desk, desk, owner]
      rfl
  | stoppingReader outcome =>
      rw [proceed?, owner] at acted
      cases acted
      apply deskStep_of_eq
      rw [desk, desk, owner]
      rfl
  | forgetting outcome =>
      rw [proceed?, owner] at acted
      cases acted
      rw [desk, owner]
      exact .forgot rfl

/-- The owner takes nothing on while it goes on with what it has in hand. -/
theorem dispatches_proceed (link : Link) : link.dispatches .proceed = [] := by
  unfold dispatches notes
  dsimp only
  split
  · split <;> rfl
  · rfl
  · rfl

/-- The peer, the reader, the tickers and the clock leave the owner and its desk alone. -/
theorem aside_of_act {action : LinkAction} (aside : action.isAside = true)
    (acted : before.act? action = some after) :
    after.owner = before.owner ∧ after.desk = before.desk := by
  cases action with
  | receive bytes | quitReading =>
      unfold act? at acted
      dsimp only at acted
      split at acted <;> cases acted
      exact ⟨rfl, rfl⟩
  | endInput | limitRoom room | breakFlush | wait duration | cancel =>
      cases acted
      exact ⟨rfl, rfl⟩
  | read =>
      unfold act? read? at acted
      dsimp only at acted
      split at acted
      · cases acted
      · split at acted
        · cases acted
          exact ⟨rfl, rfl⟩
        · cases acted
          exact ⟨rfl, rfl⟩
        · split at acted <;> cases acted
          exact ⟨rfl, rfl⟩
  | beginTicking number =>
      obtain ⟨-, rfl⟩ := turnTicker?_eq_some acted
      exact ⟨rfl, rfl⟩
  | fire number =>
      obtain ⟨turned, took, rfl⟩ := Option.map_eq_some_iff.mp acted
      obtain ⟨-, rfl⟩ := turnTicker?_eq_some took
      exact ⟨rfl, rfl⟩
  | quitTicking number =>
      unfold act? quitTicking? at acted
      dsimp only at acted
      split at acted <;> cases acted
      exact ⟨rfl, rfl⟩
  | call | takeFrame | takeTick | takeCommand | takeCancel | proceed => cases aside

/-- Every action is a step of the desk. -/
theorem deskStep_of_act {action : LinkAction} (acted : before.act? action = some after) :
    LinkDesk.Step before.gateway.localAddress before.desk action.command?
      (before.dispatches action) after.desk := by
  cases action with
  | receive | endInput | limitRoom | breakFlush | wait | cancel | read | quitReading | beginTicking
  | fire | quitTicking => exact deskStep_of_eq (aside_of_act rfl acted).2
  | call command => exact deskStep_of_call acted
  | takeFrame =>
      obtain ⟨waiting, taken⟩ := waiting_of_taken acted
      exact deskStep_of_takeFrame waiting taken
  | takeTick =>
      obtain ⟨waiting, taken⟩ := waiting_of_taken acted
      exact deskStep_of_takeTick waiting taken
  | takeCommand =>
      obtain ⟨waiting, taken⟩ := waiting_of_taken acted
      exact deskStep_of_takeCommand waiting taken
  | takeCancel =>
      obtain ⟨waiting, taken⟩ := waiting_of_taken acted
      unfold takeCancel? at taken
      split at taken
      · cases taken
        rw [desk_of_waiting waiting]
        exact .left (.ok ()) ⟨rfl, rfl, rfl⟩
      · cases taken
  | proceed =>
      rw [dispatches_proceed]
      exact deskStep_of_proceed acted

end Link

end DiagnosticGateway
