/-
Module: DiagnosticGateway.Link.Basic
Purpose: A gateway behind a byte stream, with a clock, tickers, a host and their queues.
Main exports:
  LinkFault, LinkStatus, LinkCommand, Ticker, Delivery, OwnerPhase, Link, Link.ofGateway
-/
import DiagnosticGateway.Frame.Framer
import DiagnosticGateway.Gateway.Run

/-!
A link joins three activities by queues.  A reader cuts the peer's bytes into frames and queues them.
A ticker, which is started when routing is activated, queues a tick once per alive-check interval.  The
owner alone changes the gateway: it takes one frame, tick or command at a time, writes the frames
that the gateway answers with, and only then adjusts the ticker, publishes the status and passes on
the events, in this order.  A write that fails ends the link before any of the three is done.

The others go on while the owner is at work, and a ticker that was told to stop goes on until it
notices.  So the owner's place in its work is part of a link: its phase says what it does next.
-/

namespace DiagnosticGateway

/-- Why a link ended, or a call on it failed. -/
inductive LinkFault where
  | framing (fault : FramingFault)
  /-- Writing to the peer failed. -/
  | write
  | gateway (fault : GatewayFault)
  | closed
  | aliveCheckTimeout
deriving DecidableEq

namespace LinkFault

/-- The wording of a fault; what the stream has to say about a failed write is left to it. -/
def message : LinkFault → Option String
  | .framing fault => some s!"Framing error: {fault.message}"
  | .write => none
  | .gateway fault => fault.message
  | .closed => some "Connection closed"
  | .aliveCheckTimeout => some "Peer did not answer alive check"

end LinkFault

/-- What the host sees of a link without asking the owner. -/
structure LinkStatus where
  routing : RoutingState := .idle
  tester : Option UInt16 := none
  download : DownloadState := .idle
  transferred : UInt32 := 0
deriving DecidableEq

/-- The status of a gateway. -/
def LinkStatus.ofGateway (gateway : Gateway) : LinkStatus :=
  { routing := gateway.routing.state
    tester := gateway.routing.peer
    download := gateway.download.state
    transferred := gateway.download.transferred }

/-- What the host may ask of the owner. -/
inductive LinkCommand where
  | sendDiagnostic (target : UInt16) (userData : Octets)
  | deactivate
deriving DecidableEq

/-- A task that counts time. -/
structure Ticker where
  /-- Tickers are numbered in the order in which they are started. -/
  number : Nat
  started : Time
  period : Nat
  /-- When it ticks next, once it has begun to count. -/
  next : Option Time := none
  /-- It was told to stop. -/
  cancelled : Bool := false
deriving DecidableEq

namespace Ticker

/-- A ticker that begins to count: its first tick comes one period from now. -/
def begun (ticker : Ticker) (now : Time) : Ticker :=
  { ticker with next := some (now + ticker.period) }

/-- Whether the time of the next tick has come. -/
def isDue (ticker : Ticker) (now : Time) : Bool :=
  ticker.next.any fun next => decide (next ≤ now)

/-- A ticker after its tick.  A tick that is more than five milliseconds late puts off the ones after
it. -/
def ticked (ticker : Ticker) (now : Time) : Ticker :=
  { ticker with
    next := ticker.next.map fun next => (if next + 5 < now then now else next) + ticker.period }

end Ticker

/-- What the owner does when it is done with an output. -/
inductive Sequel where
  /-- It looks at its queues again. -/
  | wait
  /-- It returns from a call first. -/
  | reply (call : Nat)
  /-- It ends the link. -/
  | leave (outcome : Except LinkFault Unit)

/-- What is left of an output when its frames are written. -/
structure Delivery where
  /-- Events that the host has not been told of yet. -/
  events : List GatewayEvent
  sequel : Sequel := .wait

/-- Whether routing was activated anew. -/
def Delivery.reactivates (delivery : Delivery) : Bool :=
  delivery.events.any GatewayEvent.isActivation

/-- What the owner does once it has no ticker any more. -/
inductive AfterTicker where
  | deliver (delivery : Delivery)
  | leave (outcome : Except LinkFault Unit)

/-- What the owner does next. -/
inductive OwnerPhase where
  /-- It waits for a frame, a tick, a command or the request to end. -/
  | waiting
  /-- It writes the frames of an output. -/
  | writing (frames : List Frame) (delivery : Delivery)
  /-- It writes the frame of a call. -/
  | sending (frame : Frame) (call : Nat)
  /-- It looks whether the ticker has to be stopped. -/
  | adjusting (delivery : Delivery)
  /-- It waits until a ticker that was told to stop has done so. -/
  | awaiting (number : Nat) (after : AfterTicker)
  /-- It drops the ticks that such a ticker has left. -/
  | draining (after : AfterTicker)
  /-- It starts a ticker if routing is active and there is none. -/
  | starting (delivery : Delivery)
  /-- It publishes the status. -/
  | publishing (delivery : Delivery)
  /-- It passes on the events. -/
  | passing (delivery : Delivery)
  /-- It tells the others that the link ends, and stops the ticker. -/
  | leaving (outcome : Except LinkFault Unit)
  /-- It stops the reader. -/
  | stoppingReader (outcome : Except LinkFault Unit)
  /-- It forgets the session. -/
  | forgetting (outcome : Except LinkFault Unit)
  /-- It is gone. -/
  | ended (outcome : Except LinkFault Unit)

/-- What comes after the ticker. -/
def AfterTicker.phase : AfterTicker → OwnerPhase
  | .deliver delivery => .starting delivery
  | .leave outcome => .stoppingReader outcome

/-- The reader's side: what has come, whether more can come, and the frames found. -/
structure LinkReader where
  framer : Framer
  buffer : Octets := []
  /-- The peer has closed its writing direction. -/
  inputEnded : Bool := false
  /-- The reader looks no further: it has reported a violation or the end, or was stopped. -/
  stopped : Bool := false
  queue : List (Except FramingFault Frame) := []

/-- A link. -/
structure Link where
  gateway : Gateway
  reader : LinkReader
  now : Time := 0
  owner : OwnerPhase := .waiting
  /-- The ticker that the owner holds, by its number. -/
  held : Option Nat := none
  /-- The tickers that have not stopped yet. -/
  tickers : List Ticker := []
  /-- Tickers started so far. -/
  starts : Nat := 0
  /-- A tick that waits to be taken, by the ticker that it comes from. -/
  tick : Option Nat := none
  /-- Commands that wait, each with the number of its call. -/
  commands : List (Nat × LinkCommand) := []
  /-- Calls made so far. -/
  calls : Nat := 0
  /-- What the calls returned. -/
  replies : List (Nat × Except LinkFault Unit) := []
  /-- The link was asked to end, or ends. -/
  cancelled : Bool := false
  /-- How many more bytes the peer takes before writing fails; no number means no end. -/
  room : Option Nat := none
  /-- Flushing what was written fails, even if that is nothing. -/
  flushFails : Bool := false
  written : Octets := []
  events : List GatewayEvent := []
  status : LinkStatus := {}

namespace Link

/-- Frames that may wait for the owner. -/
def frameQueue : Nat := 32

/-- Commands that may wait for the owner. -/
def commandQueue : Nat := 16

/-- A link at its beginning. -/
def ofGateway (gateway : Gateway) : Link :=
  { gateway := gateway
    reader := { framer := { limit := gateway.config.framing.maxPayloadLength } } }

/-- How the link ended, once it has. -/
def outcome (link : Link) : Option (Except LinkFault Unit) :=
  match link.owner with
  | .ended outcome => some outcome
  | _ => none

def isRunning (link : Link) : Bool := link.outcome.isNone

/-- Whether the owner waits for something to do. -/
def isWaiting (link : Link) : Bool :=
  match link.owner with
  | .waiting => true
  | _ => false

/-- Write bytes as far as the peer takes them; the answer is whether it took them all. -/
def write (link : Link) (bytes : Octets) : Bool × Link :=
  match link.room with
  | none => (true, { link with written := link.written ++ bytes })
  | some room =>
      let link :=
        { link with
          written := link.written ++ bytes.take room
          room := some (room - bytes.length) }
      (decide (bytes.length ≤ room), link)

/-- A call returns. -/
def reply (link : Link) (call : Nat) (result : Except LinkFault Unit) : Link :=
  { link with replies := link.replies ++ [(call, result)] }

/-- Start a ticker and hold it. -/
def startTicker (link : Link) : Link :=
  { link with
    held := some link.starts
    starts := link.starts + 1
    tickers :=
      link.tickers ++
        [{ number := link.starts, started := link.now, period := link.gateway.routing.interval }] }

/-- Let go of the ticker and tell it to stop, if there is one. -/
def releaseTicker (link : Link) (after : AfterTicker) : Link :=
  match link.held with
  | some number =>
      { link with
        held := none
        tickers :=
          link.tickers.map fun ticker =>
            if ticker.number = number then { ticker with cancelled := true } else ticker
        owner := .awaiting number after }
  | none => { link with owner := after.phase }

end Link

end DiagnosticGateway
