/-
Module: DiagnosticGateway.Link.Step
Purpose: The single actions of a link's activities, and the order in which an idle schedule takes them.
Main exports:
  LinkAction, Link.act?, Link.settle
-/
import DiagnosticGateway.Link.Owner

/-!
An action is what one activity does at one go.  Any action that is possible may come next: the order
in which the reader, the tickers, the host and the owner get their turns is not fixed.  `Link.settle`
is one such order: it lets the others work until none of them has anything left to do but to wait.
-/

namespace DiagnosticGateway

/-- One action of one of the activities around a link. -/
inductive LinkAction where
  /-- Bytes come from the peer. -/
  | receive (bytes : Octets)
  /-- The peer closes its writing direction. -/
  | endInput
  /-- The peer will take only so many more bytes. -/
  | limitRoom (room : Nat)
  /-- Flushing begins to fail. -/
  | breakFlush
  /-- Time passes. -/
  | wait (duration : Nat)
  /-- The reader looks for the next frame. -/
  | read
  /-- The reader notices that the link ends. -/
  | quitReading
  /-- A ticker begins to count. -/
  | beginTicking (number : Nat)
  /-- A ticker, whose time has come, queues a tick. -/
  | fire (number : Nat)
  /-- A ticker notices that it was told to stop. -/
  | quitTicking (number : Nat)
  /-- The host makes a call. -/
  | call (command : LinkCommand)
  /-- The host asks for the end of the link. -/
  | cancel
  /-- The owner takes a frame, or learns that there will be no more. -/
  | takeFrame
  /-- The owner takes a tick. -/
  | takeTick
  /-- The owner takes a command. -/
  | takeCommand
  /-- The owner notices that the end was asked for. -/
  | takeCancel
  /-- The owner goes on with what it has taken. -/
  | proceed

namespace Link

/-! ## The reader and the host -/

/-- The reader looks for the next frame and queues what it finds. -/
def read? (link : Link) : Option Link :=
  let reader := link.reader
  if reader.stopped || decide (frameQueue ≤ reader.queue.length) then none
  else
    let outcome :=
      if reader.inputEnded then reader.framer.finish reader.buffer
      else reader.framer.next reader.buffer
    match outcome with
    | .frame frame rest =>
        some
          { link with
            reader := { reader with buffer := rest, queue := reader.queue ++ [.ok frame] } }
    | .fault fault =>
        some
          { link with
            reader := { reader with stopped := true, queue := reader.queue ++ [.error fault] } }
    | .wait =>
        if reader.inputEnded then some { link with reader := { reader with stopped := true } }
        else none

/-- The host makes a call.  A link that has ended turns it away at once. -/
def call? (link : Link) (command : LinkCommand) : Option Link :=
  let call := link.calls
  let link := { link with calls := call + 1 }
  if link.isRunning then
    if link.commands.length < commandQueue then
      some { link with commands := link.commands ++ [(call, command)] }
    else none
  else some (link.reply call (.error .closed))

/-! ## Tickers -/

/-- A ticker that is able to takes a turn. -/
def turnTicker? (link : Link) (number : Nat) (able : Ticker → Bool) (turn : Ticker → Ticker) :
    Option Link :=
  if link.tickers.any fun ticker => decide (ticker.number = number) && able ticker then
    some
      { link with
        tickers :=
          link.tickers.map fun ticker => if ticker.number = number then turn ticker else ticker }
  else none

/-- A ticker begins to count. -/
def beginTicking? (link : Link) (number : Nat) : Option Link :=
  link.turnTicker? number (fun ticker => ticker.next.isNone) fun ticker => ticker.begun link.now

/-- A ticker queues a tick if its time has come, whether or not it was told to stop.  A tick that is
still waiting stands for both. -/
def fire? (link : Link) (number : Nat) : Option Link :=
  (link.turnTicker? number (fun ticker => ticker.isDue link.now)
    fun ticker => ticker.ticked link.now).map
    fun link => { link with tick := some (link.tick.getD number) }

/-- A ticker that was told to stop, or whose link ends, stops. -/
def quitTicking? (link : Link) (number : Nat) : Option Link :=
  if link.tickers.any fun ticker =>
      decide (ticker.number = number) && (ticker.cancelled || link.cancelled) then
    some { link with tickers := link.tickers.filter fun ticker => decide (ticker.number ≠ number) }
  else none

/-! ## Actions -/

/-- Do one action, if it is possible.  The owner takes something only when it waits. -/
def act? (link : Link) : LinkAction → Option Link
  | .receive bytes =>
      if link.reader.inputEnded then none
      else some { link with reader := { link.reader with buffer := link.reader.buffer ++ bytes } }
  | .endInput => some { link with reader := { link.reader with inputEnded := true } }
  | .limitRoom room => some { link with room := some room }
  | .breakFlush => some { link with flushFails := true }
  | .wait duration => some { link with now := link.now + duration }
  | .read => link.read?
  | .quitReading =>
      if link.cancelled then some { link with reader := { link.reader with stopped := true } }
      else none
  | .beginTicking number => link.beginTicking? number
  | .fire number => link.fire? number
  | .quitTicking number => link.quitTicking? number
  | .call command => link.call? command
  | .cancel => some { link with cancelled := true }
  | .takeFrame => if link.isWaiting then link.takeFrame? else none
  | .takeTick => if link.isWaiting then link.takeTick? else none
  | .takeCommand => if link.isWaiting then link.takeCommand? else none
  | .takeCancel => if link.isWaiting then link.takeCancel? else none
  | .proceed => link.proceed?

/-! ## An idle schedule -/

/-- What the first ticker does of its own accord. -/
def tickerTurn? (link : Link) : Option Link :=
  match link.tickers with
  | ticker :: _ =>
      (link.act? (.quitTicking ticker.number)).orElse
        fun _ => link.act? (.beginTicking ticker.number)
  | [] => none

/-- What the owner takes first when it waits. -/
def takeTurn? (link : Link) : Option Link :=
  (((link.act? .takeCancel).orElse fun _ => link.act? .takeFrame).orElse
    fun _ => link.act? .takeTick).orElse fun _ => link.act? .takeCommand

/-- What an idle schedule does next: the owner finishes what it does and empties its queues before
the reader goes on. -/
def nextTurn? (link : Link) : Option Link :=
  (((link.act? .proceed).orElse fun _ => link.tickerTurn?).orElse fun _ => link.takeTurn?).orElse
    fun _ => link.act? .read

/-- Take at most `turns` turns of the idle schedule. -/
def settleFor : Nat → Link → Link
  | 0, link => link
  | turns + 1, link =>
      match link.nextTurn? with
      | some next => settleFor turns next
      | none => link

/-- Let the reader and the owner work until neither has anything left to do.  A frame has at least
eight bytes, and what the owner takes costs it fewer than 32 turns; so the bytes and the queues bound
the turns. -/
def settle (link : Link) : Link :=
  settleFor
    (4 * link.reader.buffer.length + 32 * (link.reader.queue.length + link.commands.length + 4))
    link

end Link

end DiagnosticGateway
