/-
Module: DiagnosticGateway.Link.Owner
Purpose: What the owner of a link takes from its queues, and how it goes on with it.
Main exports:
  Link.takeFrame?, Link.takeTick?, Link.takeCommand?, Link.takeCancel?, Link.proceed?
-/
import DiagnosticGateway.Link.Basic

/-!
The owner takes something when it waits, and then proceeds phase by phase until it waits again or is
gone.  It is held up only where it waits for a ticker to stop.
-/

namespace DiagnosticGateway.Link

/-! ## Taking -/

/-- The owner takes the next frame.  A violation ends the link, and so does the end of the frames. -/
def takeFrame? (link : Link) : Option Link :=
  match link.reader.queue with
  | .ok frame :: queue =>
      let (output, gateway) := link.gateway.handleFrame frame link.now
      some
        { link with
          gateway := gateway
          reader := { link.reader with queue := queue }
          owner := .writing output.frames { events := output.events } }
  | .error fault :: queue =>
      some
        { link with
          reader := { link.reader with queue := queue }
          owner := .leaving (.error (.framing fault)) }
  | [] => if link.reader.stopped then some { link with owner := .leaving (.ok ()) } else none

/-- The owner takes a tick and follows the alive-check schedule.  An expiry ends the link after it was
passed on. -/
def takeTick? (link : Link) : Option Link :=
  match link.tick with
  | some _ =>
      let (output, gateway) := link.gateway.pollAliveCheck link.now
      some
        { link with
          gateway := gateway
          tick := none
          owner :=
            .writing output.frames
              { events := output.events
                sequel :=
                  if output.events.any GatewayEvent.isExpiry then
                    .leave (.error .aliveCheckTimeout)
                  else .wait } }
  | none => none

/-- The owner takes a command. -/
def takeCommand? (link : Link) : Option Link :=
  match link.commands with
  | (call, .sendDiagnostic target userData) :: commands =>
      let link := { link with commands := commands }
      match link.gateway.diagnosticRequest target userData with
      | .ok frame => some { link with owner := .sending frame call }
      | .error fault => some (link.reply call (.error (.gateway fault)))
  | (call, .deactivate) :: commands =>
      let (output, gateway) := link.gateway.deactivate
      some
        { link with
          gateway := gateway
          commands := commands
          owner := .writing output.frames { events := output.events, sequel := .reply call } }
  | [] => none

/-- The owner notices that the end was asked for. -/
def takeCancel? (link : Link) : Option Link :=
  if link.cancelled then some { link with owner := .leaving (.ok ()) } else none

/-! ## Proceeding -/

/-- The owner is done with an output. -/
def follow (link : Link) : Sequel → Link
  | .wait => { link with owner := .waiting }
  | .reply call => { link.reply call (.ok ()) with owner := .waiting }
  | .leave outcome => { link with owner := .leaving outcome }

/-- Writing or flushing has failed.  The call on whose behalf it was is turned away. -/
def writeFailed (link : Link) : Sequel → Link
  | .wait | .leave _ => { link with owner := .leaving (.error .write) }
  | .reply call => { link.reply call (.error .closed) with owner := .leaving (.error .write) }

/-- Forget the session and turn waiting calls away. -/
def forget (link : Link) (outcome : Except LinkFault Unit) : Link :=
  { link with
    gateway := link.gateway.reset
    reader := { link.reader with queue := [] }
    commands := []
    replies := link.replies ++ link.commands.map fun (call, _) => (call, .error .closed)
    status := {}
    owner := .ended outcome }

/-- The owner goes on with its work. -/
def proceed? (link : Link) : Option Link :=
  match link.owner with
  | .waiting | .ended _ => none
  | .writing (frame :: frames) delivery =>
      let (taken, link) := link.write frame.encode
      some
        (if taken then { link with owner := .writing frames delivery }
        else link.writeFailed delivery.sequel)
  | .writing [] delivery =>
      some
        (if link.flushFails then link.writeFailed delivery.sequel
        else { link with owner := .adjusting delivery })
  | .sending frame call =>
      let (taken, link) := link.write frame.encode
      some
        (if taken && !link.flushFails then link.follow (.reply call)
        else link.writeFailed (.reply call))
  | .adjusting delivery =>
      some
        (if delivery.reactivates || !link.gateway.routing.isActive then
          link.releaseTicker (.deliver delivery)
        else { link with owner := .starting delivery })
  | .awaiting number after =>
      if link.tickers.any fun ticker => decide (ticker.number = number) then none
      else some { link with owner := .draining after }
  | .draining after =>
      match link.tick with
      | some _ => some { link with tick := none }
      | none => some { link with owner := after.phase }
  | .starting delivery =>
      let link :=
        if link.gateway.routing.isActive && link.held.isNone then link.startTicker else link
      some { link with owner := .publishing delivery }
  | .publishing delivery =>
      some { link with status := .ofGateway link.gateway, owner := .passing delivery }
  | .passing delivery =>
      match delivery.events with
      | event :: events =>
          some
            { link with
              events := link.events ++ [event]
              owner := .passing { delivery with events := events } }
      | [] => some (link.follow delivery.sequel)
  | .leaving outcome => some ({ link with cancelled := true }.releaseTicker (.leave outcome))
  | .stoppingReader outcome =>
      some
        { link with
          reader := { link.reader with stopped := true }
          owner := .forgetting outcome }
  | .forgetting outcome => some (link.forget outcome)

end DiagnosticGateway.Link
