/-
Module: DiagnosticGateway.Proofs.Routing.History
Purpose: What an observer of a routing session sees, and how its histories are read.
Main exports:
  RoutingEvent, Routing.Step, Routing.Reaches, checksSent, times, unanswered,
  mem_unanswered_iff, ActivatedSince, ActiveSince, Routing.Reaches.of_append_cons
-/
import DiagnosticGateway.Proofs.Routing.Session
import Mathlib.Data.List.DropRight

/-!
An observer of a session sees the calls on it, and what the schedule asks for when it is polled.  The
calls may come in any order and with any times.  Which checks have been sent since an activation, and
which of them nobody has answered, is read from the events and not from the session.
-/

namespace DiagnosticGateway

/-- A call on a session, and what came of it if it was a poll. -/
inductive RoutingEvent where
  | activated (request : ActivationRequest) (now : Time)
  /-- Something came from the peer. -/
  | touched (now : Time)
  /-- An alive check was answered, whatever address the answer gave. -/
  | answered (source : Option UInt16) (now : Time)
  | polled (now : Time) (check : AliveCheck)
  | deactivated
deriving DecidableEq

namespace RoutingEvent

/-- Whether an event shows that the peer is there. -/
def isSignOfLife : RoutingEvent → Bool
  | .activated _ _ | .touched _ | .answered _ _ => true
  | .polled _ _ | .deactivated => false

def isActivation : RoutingEvent → Bool
  | .activated _ _ => true
  | .touched _ | .answered _ _ | .polled _ _ | .deactivated => false

/-- Whether an event leaves the session inactive. -/
def endsSession : RoutingEvent → Bool
  | .deactivated | .polled _ .expired => true
  | .activated _ _ | .touched _ | .answered _ _ | .polled _ .notDue | .polled _ (.send _) => false

/-- The time at which an event sent an alive check, if it did. -/
def checkSent? : RoutingEvent → Option Time
  | .polled now (.send _) => some now
  | .activated _ _ | .touched _ | .answered _ _ | .polled _ .notDue | .polled _ .expired
  | .deactivated => none

/-- When an event happened, if it was told. -/
def time? : RoutingEvent → Option Time
  | .activated _ now | .touched now | .answered _ now | .polled now _ => some now
  | .deactivated => none

theorem checkSent?_eq_some_iff {event : RoutingEvent} {now : Time} :
    event.checkSent? = some now ↔ ∃ request, event = .polled now (.send request) := by
  constructor
  · intro sent
    unfold checkSent? at sent
    split at sent
    · obtain rfl := Option.some.inj sent
      exact ⟨_, rfl⟩
    all_goals cases sent
  · rintro ⟨request, rfl⟩
    rfl

end RoutingEvent

/-! ## Histories -/

/-- One call: what an observer sees, and the session afterwards. -/
inductive Routing.Step (routing : Routing) : RoutingEvent → Routing → Prop where
  | activated (request : ActivationRequest) (now : Time) :
      Step routing (.activated request now) (routing.activate request now).2
  | touched (now : Time) : Step routing (.touched now) (routing.touch now)
  | answered (source : Option UInt16) (now : Time) :
      Step routing (.answered source now) (routing.touch now)
  | polled {now : Time} {check : AliveCheck} {next : Routing}
      (outcome : routing.poll now = (check, next)) : Step routing (.polled now check) next
  | deactivated : Step routing .deactivated routing.deactivate

/-- A session can come to a state by calls, and an observer has then seen a history. -/
inductive Routing.Reaches (first : Routing) : List RoutingEvent → Routing → Prop where
  | start : Reaches first [] first
  | step {history : List RoutingEvent} {event : RoutingEvent} {routing next : Routing}
      (reached : Reaches first history routing) (step : routing.Step event next) :
      Reaches first (history ++ [event]) next

namespace Routing.Reaches

variable {first routing : Routing} {history before after : List RoutingEvent}
  {event : RoutingEvent}

theorem of_concat (reached : Reaches first (history ++ [event]) routing) :
    ∃ earlier, Reaches first history earlier ∧ earlier.Step event routing := by
  generalize wholeEq : history ++ [event] = whole at reached
  cases reached with
  | start => exact absurd wholeEq (List.append_ne_nil_of_right_ne_nil _ (List.cons_ne_nil _ _))
  | step reached step =>
      obtain ⟨rfl, eventEq⟩ := List.append_inj' wholeEq rfl
      obtain rfl : event = _ := List.singleton_inj.mp eventEq
      exact ⟨_, reached, step⟩

/-- Everything that is seen is seen after what was seen before it. -/
theorem of_append_cons (reached : Reaches first (before ++ event :: after) routing) :
    ∃ earlier next, Reaches first before earlier ∧ earlier.Step event next := by
  induction after using List.reverseRecOn generalizing routing with
  | nil =>
      obtain ⟨earlier, reached, step⟩ := reached.of_concat
      exact ⟨earlier, routing, reached, step⟩
  | append_singleton after last inductionHypothesis =>
      rw [← List.cons_append, ← List.append_assoc] at reached
      obtain ⟨earlier, reached, -⟩ := reached.of_concat
      exact inductionHypothesis reached

/-- A session keeps its settings. -/
theorem settings (reached : Reaches first history routing) :
    routing.interval = first.interval ∧ routing.timeout = first.timeout := by
  induction reached with
  | start => exact ⟨rfl, rfl⟩
  | step reached step inductionHypothesis =>
      cases step with
      | activated | touched | answered | deactivated => exact inductionHypothesis
      | polled outcome => cases pollOutcome_of_eq outcome <;> exact inductionHypothesis

end Routing.Reaches

/-! ## Checks -/

/-- The times at which alive checks were sent, in order. -/
def checksSent (history : List RoutingEvent) : List Time :=
  history.filterMap RoutingEvent.checkSent?

/-- The times of the events that were told one, in order. -/
def times (history : List RoutingEvent) : List Time :=
  history.filterMap RoutingEvent.time?

/-- The times at which checks were sent that no sign of life has followed. -/
def unanswered (history : List RoutingEvent) : List Time :=
  checksSent (history.rtakeWhile fun event => !event.isSignOfLife)

section

variable {history : List RoutingEvent} {event : RoutingEvent}

/-- What holds of all events holds of the last one and of all before it. -/
theorem forall_mem_concat_iff {events : List RoutingEvent} {property : RoutingEvent → Prop} :
    (∀ other ∈ events ++ [event], property other) ↔
      (∀ other ∈ events, property other) ∧ property event := by
  rw [List.forall_mem_append, List.forall_mem_singleton]

theorem checksSent_concat_of_none (unsent : event.checkSent? = none) :
    checksSent (history ++ [event]) = checksSent history := by
  simp [checksSent, unsent]

theorem checksSent_concat_of_some {now : Time} (sent : event.checkSent? = some now) :
    checksSent (history ++ [event]) = checksSent history ++ [now] := by
  simp [checksSent, sent]

theorem unanswered_concat_of_sign (sign : event.isSignOfLife = true) :
    unanswered (history ++ [event]) = [] := by
  simp [unanswered, checksSent, sign]

theorem unanswered_concat_of_silent (silent : event.isSignOfLife = false) :
    unanswered (history ++ [event]) = unanswered history ++ checksSent [event] := by
  simp [unanswered, checksSent, silent]

theorem mem_times_of_mem_checksSent {sent : Time} (member : sent ∈ checksSent history) :
    sent ∈ times history := by
  obtain ⟨event, eventMember, eventSent⟩ := List.mem_filterMap.mp member
  obtain ⟨request, rfl⟩ := RoutingEvent.checkSent?_eq_some_iff.mp eventSent
  exact List.mem_filterMap.mpr ⟨_, eventMember, rfl⟩

/-- A check is unanswered if it was sent and no sign of life has followed. -/
theorem mem_unanswered_iff {sent : Time} :
    sent ∈ unanswered history ↔
      ∃ before request between, history = before ++ .polled sent (.send request) :: between ∧
        ∀ event ∈ between, event.isSignOfLife = false := by
  constructor
  · intro member
    obtain ⟨event, silent, eventSent⟩ := List.mem_filterMap.mp member
    obtain ⟨request, rfl⟩ := RoutingEvent.checkSent?_eq_some_iff.mp eventSent
    obtain ⟨prior, whole⟩ := List.rtakeWhile_suffix (fun event => !event.isSignOfLife) history
    obtain ⟨front, between, split⟩ := List.append_of_mem silent
    refine ⟨prior ++ front, request, between, by rw [← whole, split, List.append_assoc], ?_⟩
    intro other otherMember
    have otherSilent : other ∈ history.rtakeWhile fun event => !event.isSignOfLife := by
      rw [split]
      exact List.mem_append_right _ (List.mem_cons_of_mem _ otherMember)
    simpa using List.mem_rtakeWhile_imp otherSilent
  · rintro ⟨before, request, between, rfl, silent⟩
    induction between using List.reverseRecOn with
    | nil =>
        rw [unanswered_concat_of_silent rfl]
        exact List.mem_append_right _ (List.mem_singleton_self sent)
    | append_singleton between event inductionHypothesis =>
        obtain ⟨earlierSilent, eventSilent⟩ := forall_mem_concat_iff.mp silent
        rw [← List.cons_append, ← List.append_assoc, unanswered_concat_of_silent eventSilent]
        exact List.mem_append_left _ (inductionHypothesis earlierSilent)

end

/-! ## Activations -/

/-- Routing was activated at the time `start`, and `between` is what came after.  It holds no other
activation. -/
structure ActivatedSince (history between : List RoutingEvent) (start : Time) : Prop where
  activation : ∃ prior request, history = prior ++ .activated request start :: between
  last : ∀ event ∈ between, event.isActivation = false

/-- Routing was activated at the time `start`, and has been active since. -/
structure ActiveSince (history between : List RoutingEvent) (start : Time) : Prop
    extends ActivatedSince history between start where
  unended : ∀ event ∈ between, event.endsSession = false

section

variable {history between : List RoutingEvent} {event : RoutingEvent} {start : Time}

theorem ActivatedSince.of_concat (since : ActivatedSince (history ++ [event]) between start) :
    (between = [] ∧ ∃ request, event = .activated request start) ∨
      ∃ earlier, between = earlier ++ [event] ∧ event.isActivation = false ∧
        ActivatedSince history earlier start := by
  obtain ⟨⟨prior, request, whole⟩, last⟩ := since
  rcases List.eq_nil_or_concat' between with rfl | ⟨earlier, final, rfl⟩
  · obtain ⟨-, eventEq⟩ := List.append_inj' whole rfl
    exact .inl ⟨rfl, request, List.singleton_inj.mp eventEq⟩
  · rw [← List.cons_append, ← List.append_assoc] at whole
    obtain ⟨historyEq, eventEq⟩ := List.append_inj' whole rfl
    obtain rfl : event = final := List.singleton_inj.mp eventEq
    obtain ⟨earlierLast, eventLast⟩ := forall_mem_concat_iff.mp last
    exact .inr ⟨earlier, rfl, eventLast, ⟨prior, request, historyEq⟩, earlierLast⟩

theorem ActivatedSince.concat (since : ActivatedSince history between start)
    (other : event.isActivation = false) :
    ActivatedSince (history ++ [event]) (between ++ [event]) start := by
  obtain ⟨⟨prior, request, rfl⟩, last⟩ := since
  exact ⟨⟨prior, request, by simp⟩, forall_mem_concat_iff.mpr ⟨last, other⟩⟩

theorem ActiveSince.activated (history : List RoutingEvent) (request : ActivationRequest)
    (start : Time) : ActiveSince (history ++ [.activated request start]) [] start :=
  ⟨⟨⟨history, request, rfl⟩, nofun⟩, nofun⟩

theorem ActiveSince.concat (since : ActiveSince history between start)
    (other : event.isActivation = false) (unending : event.endsSession = false) :
    ActiveSince (history ++ [event]) (between ++ [event]) start :=
  ⟨since.toActivatedSince.concat other, forall_mem_concat_iff.mpr ⟨since.unended, unending⟩⟩

/-- An activation makes a session active, some events end it, and all others leave it as it is. -/
theorem exists_activeSince_concat_iff :
    (∃ between start, ActiveSince (history ++ [event]) between start) ↔
      event.isActivation = true ∨
        event.endsSession = false ∧ ∃ between start, ActiveSince history between start := by
  constructor
  · rintro ⟨between, start, since, unended⟩
    rcases since.of_concat with ⟨rfl, request, rfl⟩ | ⟨earlier, rfl, -, since⟩
    · exact .inl rfl
    · obtain ⟨earlierUnended, eventUnended⟩ := forall_mem_concat_iff.mp unended
      exact .inr ⟨eventUnended, earlier, start, since, earlierUnended⟩
  · intro cause
    cases event with
    | activated request now => exact ⟨[], now, .activated history request now⟩
    | touched | answered | polled | deactivated =>
        obtain ⟨unending, between, start, since⟩ := cause.resolve_left nofun
        exact ⟨_, start, since.concat rfl unending⟩

/-- The checks that nobody has answered were sent after the last activation. -/
theorem ActivatedSince.unanswered_suffix (since : ActivatedSince history between start) :
    unanswered history <:+ checksSent between := by
  obtain ⟨⟨prior, request, rfl⟩, -⟩ := since
  induction between using List.reverseRecOn with
  | nil =>
      rw [unanswered_concat_of_sign rfl]
      exact List.nil_suffix
  | append_singleton between event inductionHypothesis =>
      rw [← List.cons_append, ← List.append_assoc]
      cases silent : event.isSignOfLife with
      | true =>
          rw [unanswered_concat_of_sign silent]
          exact List.nil_suffix
      | false =>
          obtain ⟨answered, split⟩ := inductionHypothesis
          refine ⟨answered, ?_⟩
          rw [unanswered_concat_of_silent silent, ← List.append_assoc, split]
          exact List.filterMap_append.symm

end

end DiagnosticGateway
