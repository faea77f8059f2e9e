/-
Module: DiagnosticGateway.Link.Scenario
Purpose: Scripted runs of a link, with a tester at the far end and a clock that moves when told.
Main exports:
  ScenarioStep, StepResult, Observation, Scenario, Scenario.perform, Scenario.conclude
-/
import DiagnosticGateway.Link.Step

/-!
A scenario plays a tester, a host and the clock.  After every step the link is left to itself until
it is idle, and what the two sides can see then is the step's observation.
-/

namespace DiagnosticGateway

/-- One step of a script. -/
inductive ScenarioStep where
  /-- The tester writes bytes. -/
  | write (bytes : Octets)
  /-- The tester writes bytes and drops its end before the link runs. -/
  | writeAndDrop (bytes : Octets)
  /-- The tester closes its writing direction. -/
  | closeWriting
  /-- The tester drops its end. -/
  | dropTester
  /-- The host stops listening to events. -/
  | dropHost
  /-- Time passes. -/
  | advance (duration : Nat)
  /-- The host makes a call. -/
  | call (command : LinkCommand)

/-- What a step returns. -/
inductive StepResult where
  | nothing
  /-- Whether the tester could write. -/
  | wrote (accepted : Bool)
  /-- What a call returned. -/
  | returned (result : Except LinkFault Unit)

/-- What can be seen after a step. -/
structure Observation where
  result : StepResult
  /-- Bytes that reached the tester during the step. -/
  received : Octets
  /-- Events that reached the host during the step. -/
  events : List GatewayEvent
  /-- The tester has seen the end of the link's stream. -/
  streamEnded : Bool
  /-- The host has seen the end of the events. -/
  eventsEnded : Bool
  status : LinkStatus
  finished : Bool

/-- A link, and what the two sides still hold of it. -/
structure Scenario where
  link : Link
  testerPresent : Bool := true
  hostListening : Bool := true
  streamEnded : Bool := false
  eventsEnded : Bool := false

namespace Scenario

/-- A scenario at its beginning. -/
def start (gateway : Gateway) : Scenario := { link := .ofGateway gateway }

/-- Do an action if it is possible, and let the link settle. -/
def play (link : Link) (action : LinkAction) : Link := ((link.act? action).getD link).settle

/-- The first ticker that counts, and when it ticks next. -/
def nextTick? (link : Link) : Option (Nat × Time) :=
  link.tickers.findSome? fun ticker => ticker.next.map fun next => (ticker.number, next)

/-- Let time pass tick by tick, at most `ticks` of them. -/
def elapse : Nat → Link → Nat → Link
  | 0, link, duration => play link (.wait duration)
  | ticks + 1, link, duration =>
      match nextTick? link with
      | some (number, next) =>
          if next ≤ link.now + duration then
            let share := next - link.now
            let link := (link.act? (.wait share)).getD link
            elapse ticks (play link (.fire number)) (duration - share)
          else play link (.wait duration)
      | none => play link (.wait duration)

/-- What the tester and the host do to the link when the tester goes away. -/
def hangUp (link : Link) : Link :=
  play ((link.act? (.limitRoom 0)).getD link) .endInput

/-- The link after a step, and what the step returned. -/
def advanceLink (scenario : Scenario) : ScenarioStep → StepResult × Link
  | .write bytes =>
      let accepted := scenario.link.isRunning && scenario.testerPresent
      (.wrote accepted,
        if accepted then play scenario.link (.receive bytes) else scenario.link)
  | .writeAndDrop bytes =>
      let accepted := scenario.link.isRunning && scenario.testerPresent
      let link :=
        if accepted then (scenario.link.act? (.receive bytes)).getD scenario.link
        else scenario.link
      (.wrote accepted, hangUp link)
  | .closeWriting => (.nothing, play scenario.link .endInput)
  | .dropTester => (.nothing, hangUp scenario.link)
  | .dropHost => (.nothing, scenario.link)
  | .advance duration => (.nothing, elapse (duration + 1) scenario.link duration)
  | .call command =>
      let call := scenario.link.calls
      let link := play scenario.link (.call command)
      (.returned ((link.replies.lookup call).getD (.error .closed)), link)

/-- Take a step and note what can be seen. -/
def perform (scenario : Scenario) (step : ScenarioStep) : Observation × Scenario :=
  let testerPresent :=
    match step with
    | .writeAndDrop _ | .dropTester => false
    | _ => scenario.testerPresent
  let hostListening :=
    match step with
    | .dropHost => false
    | _ => scenario.hostListening
  let (result, link) := scenario.advanceLink step
  let finished := !link.isRunning
  let streamEnded := if testerPresent then finished else scenario.streamEnded
  let eventsEnded := if hostListening then finished else scenario.eventsEnded
  ({ result := result
     received := if testerPresent then link.written else []
     events := if hostListening then link.events else []
     streamEnded := streamEnded
     eventsEnded := eventsEnded
     status := link.status
     finished := finished },
    { link := { link with written := [], events := [], replies := [] }
      testerPresent := testerPresent
      hostListening := hostListening
      streamEnded := streamEnded
      eventsEnded := eventsEnded })

/-- How a script ends: whether the link had ended by itself, how, and what can be seen last.  A link
that still runs is asked to end. -/
structure Conclusion where
  byItself : Bool
  outcome : Except LinkFault Unit
  received : Octets
  events : List GatewayEvent
  streamEnded : Bool
  eventsEnded : Bool

/-- End a script. -/
def conclude (scenario : Scenario) : Conclusion :=
  let byItself := !scenario.link.isRunning
  let link := play scenario.link .cancel
  { byItself := byItself
    outcome := link.outcome.getD (.ok ())
    received := if scenario.testerPresent then link.written else []
    events := if scenario.hostListening then link.events else []
    streamEnded := scenario.testerPresent || scenario.streamEnded
    eventsEnded := scenario.hostListening || scenario.eventsEnded }

end Scenario

end DiagnosticGateway
