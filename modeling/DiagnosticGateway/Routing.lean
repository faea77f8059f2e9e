/-
Module: DiagnosticGateway.Routing
Purpose: Routing activation and the alive check for one peer.
Main exports:
  Time, RoutingState, Routing, Routing.activate, Routing.touch, Routing.poll,
  Routing.deactivate
-/
import DiagnosticGateway.Payload.Activation
import DiagnosticGateway.Payload.AliveCheck

/-!
A session is idle until a tester activates it.  While it is active an alive check falls due once per
interval.  Any sign of life clears the pending check; a check that has stayed pending for the timeout
ends the session the next time one falls due.  The session keeps no clock: whoever calls it says what
time it is.
-/

namespace DiagnosticGateway

/-- Milliseconds since the clock was started. -/
abbrev Time := Nat

/-- Whether routing is open. -/
inductive RoutingState where
  /-- Never activated. -/
  | idle
  | active
  /-- Activated once, and not any more. -/
  | inactive
deriving DecidableEq

/-- The name of a state. -/
def RoutingState.name : RoutingState → String
  | .idle => "Idle"
  | .active => "Active"
  | .inactive => "Inactive"

/-- A routing session with one peer. -/
structure Routing where
  localAddress : UInt16
  interval : Nat
  /-- How long a check may stay pending; without a timeout a session never expires. -/
  timeout : Option Nat
  peer : Option UInt16 := none
  state : RoutingState := .idle
  lastActivity : Option Time := none
  /-- When the next check falls due. -/
  nextCheck : Option Time := none
  /-- When the oldest unanswered check was sent. -/
  pendingSince : Option Time := none
deriving DecidableEq

/-- What the alive-check schedule asks for. -/
inductive AliveCheck where
  | notDue
  | send (request : AliveCheckRequest)
  | expired
deriving DecidableEq

namespace Routing

def isActive (routing : Routing) : Bool := routing.state == .active

/-- Whether an address is that of the activated peer. -/
def accepts (routing : Routing) (source : UInt16) : Bool :=
  routing.isActive && routing.peer == some source

/-- Activate routing for a tester.  This always succeeds, also for another tester than before. -/
def activate (routing : Routing) (request : ActivationRequest) (now : Time) :
    ActivationResponse × Routing :=
  ({ entity := routing.localAddress, tester := request.source, code := .success },
    { routing with
      peer := some request.source
      state := .active
      lastActivity := some now
      nextCheck := some (now + routing.interval)
      pendingSince := none })

/-- Note a sign of life. -/
def touch (routing : Routing) (now : Time) : Routing :=
  { routing with lastActivity := some now, pendingSince := none }

/-- Leave the active state.  A session that was never activated stays idle. -/
def deactivate (routing : Routing) : Routing :=
  { routing with
    state := if routing.state = .idle then .idle else .inactive
    nextCheck := none
    pendingSince := none }

/-- Whether a pending check has been waiting for the timeout. -/
def overdue (routing : Routing) (now : Time) : Bool :=
  match routing.pendingSince, routing.timeout with
  | some sent, some timeout => decide (timeout ≤ now - sent)
  | _, _ => false

/-- When the check after one due at `due` and made at `now` falls due: an interval after the due
time, or an interval from now if that has passed too. -/
def checkAfter (routing : Routing) (due now : Time) : Time :=
  if due + routing.interval ≤ now then now + routing.interval else due + routing.interval

/-- Ask the alive-check schedule what is to be done now. -/
def poll (routing : Routing) (now : Time) : AliveCheck × Routing :=
  match routing.state, routing.nextCheck with
  | .active, some due =>
      if now < due then (.notDue, routing)
      else if routing.overdue now then (.expired, routing.deactivate)
      else
        (.send { source := routing.localAddress },
          { routing with
            nextCheck := some (routing.checkAfter due now)
            pendingSince := some (routing.pendingSince.getD now) })
  | _, _ => (.notDue, routing)

end Routing

end DiagnosticGateway
