/-
Module: DiagnosticGateway.Proofs.Routing.Expiry
Purpose: A session expires over a check that nobody has answered, and over nothing else.
Main exports:
  Unheard, Routing.Follows.poll_eq_expired_iff, Routing.Reaches.inactive_of_ended,
  expiry_of_unanswered_checks
-/
import DiagnosticGateway.Proofs.Routing.Schedule

/-!
Whether a poll finds a session expired is read from what an observer has seen before it: when routing
was activated, which checks have been sent since, and which of them no sign of life has followed.
Nothing is asked of the times at which the calls are made, since a check that is pending was never
sent later than the next one falls due.
-/

namespace DiagnosticGateway

/-- Routing is active, a check falls due by the time `now`, and the first check that nobody has
answered has been waiting for the timeout by then. -/
inductive Unheard (interval : Nat) (timeout : Option Nat) (history : List RoutingEvent) (now : Nat) :
    Prop where
  | intro {between : List RoutingEvent} {start limit sent : Nat}
      (since : ActiveSince history between start)
      (due : dueAfter interval start (checksSent between) ≤ now)
      (configured : timeout = some limit)
      (first : (unanswered history).head? = some sent)
      (waited : sent + limit ≤ now)

/-- Every check that was sent is followed by a sign of life before another check falls due and is
polled for. -/
def AnsweredInTime (history : List RoutingEvent) : Prop :=
  ∀ before sent request between now check after,
    history = before ++ .polled sent (.send request) :: (between ++ .polled now check :: after) →
      check ≠ .notDue → ∃ event ∈ between, event.isSignOfLife = true

namespace Routing

variable {first routing : Routing} {history before after : List RoutingEvent} {now sent : Nat}

/-! ## A poll after a history -/

namespace Follows

variable {between : List RoutingEvent} {start : Nat}

/-- An unanswered check was sent before the next one falls due. -/
theorem unanswered_le_due (follows : routing.Follows history)
    (since : ActivatedSince history between start) (member : sent ∈ unanswered history) :
    sent ≤ dueAfter routing.interval start (checksSent between) :=
  (follows.punctual since).le_dueAfter sent (since.unanswered_suffix.subset member)

/-- The first of the unanswered checks was sent first. -/
theorem head_le_of_mem_unanswered (follows : routing.Follows history)
    (since : ActivatedSince history between start) (member : sent ∈ unanswered history) :
    ∃ earliest, (unanswered history).head? = some earliest ∧ earliest ≤ sent := by
  have ordered := (follows.punctual since).pairwise_le.sublist since.unanswered_suffix.sublist
  cases unansweredEq : unanswered history with
  | nil => simp [unansweredEq] at member
  | cons earliest others =>
      rw [unansweredEq] at ordered member
      refine ⟨earliest, rfl, ?_⟩
      rcases List.mem_cons.mp member with rfl | other
      · exact Nat.le_refl _
      · exact List.rel_of_pairwise_cons ordered other

theorem poll_eq_expired_iff (follows : routing.Follows history) :
    (routing.poll now).1 = .expired ↔ Unheard routing.interval routing.timeout history now := by
  rw [Routing.poll_eq_expired_iff, follows.poll_ne_notDue_iff, overdue_iff]
  constructor
  · rintro ⟨⟨between, start, since, due⟩, sent, limit, pending, configured, waited⟩
    have active := follows.activity.mpr ⟨between, start, since⟩
    have first : (unanswered history).head? = some sent :=
      (follows.pending active).symm.trans pending
    have sentBefore : sent ≤ now :=
      Nat.le_trans (follows.unanswered_le_due since.toActivatedSince (List.mem_of_head? first)) due
    exact ⟨since, due, configured, first, Nat.add_le_of_le_sub' sentBefore waited⟩
  · rintro ⟨since, due, configured, first, waited⟩
    have active := follows.activity.mpr ⟨_, _, since⟩
    exact ⟨⟨_, _, since, due⟩, _, _, (follows.pending active).trans first, configured,
      Nat.le_sub_of_add_le' waited⟩

/-- Whatever has been sent since, a check that nobody answers is not forgotten. -/
theorem poll_eq_expired_of_unanswered (follows : routing.Follows history) {limit : Nat}
    (member : sent ∈ unanswered history) (configured : routing.timeout = some limit)
    (waited : sent + limit ≤ now) (asked : (routing.poll now).1 ≠ .notDue) :
    (routing.poll now).1 = .expired := by
  obtain ⟨between, start, since, due⟩ := follows.poll_ne_notDue_iff.mp asked
  obtain ⟨earliest, first, before⟩ := follows.head_le_of_mem_unanswered since.toActivatedSince member
  exact follows.poll_eq_expired_iff.mpr
    ⟨since, due, configured, first, Nat.le_trans (Nat.add_le_add_right before limit) waited⟩

end Follows

namespace Reaches

/-- Every poll of a history was made after what was seen before it. -/
theorem poll_eq {check : AliveCheck}
    (reached : Reaches first (before ++ .polled now check :: after) routing) :
    ∃ earlier, Reaches first before earlier ∧ (earlier.poll now).1 = check := by
  obtain ⟨earlier, next, reached, step⟩ := reached.of_append_cons
  cases step with
  | polled outcome => exact ⟨earlier, reached, congrArg Prod.fst outcome⟩

/-- A session in which a check expired was unheard of then. -/
theorem unheard_of_mem (idle : first.state = .idle) (reached : Reaches first history routing)
    (member : .polled now .expired ∈ history) :
    ∃ before after, history = before ++ .polled now .expired :: after ∧
      Unheard first.interval first.timeout before now := by
  obtain ⟨before, after, rfl⟩ := List.append_of_mem member
  obtain ⟨earlier, reached, expired⟩ := reached.poll_eq
  have unheard := (reached.follows idle).poll_eq_expired_iff.mp expired
  rw [reached.settings.1, reached.settings.2] at unheard
  exact ⟨before, after, rfl, unheard⟩

/-- A session that has been left stays so until the next activation. -/
theorem inactive_of_ended {event : RoutingEvent} (ended : event.endsSession = true)
    (reached : Reaches first (before ++ event :: after) routing)
    (unactivated : ∀ other ∈ after, other.isActivation = false) : routing.isActive = false := by
  -- The last event is what made the session what it is, so the induction goes back from the end.
  induction after using List.reverseRecOn generalizing routing with
  | nil =>
      obtain ⟨earlier, -, step⟩ := reached.of_concat
      cases event with
      | activated | touched | answered => cases ended
      | polled | deactivated => simpa [ended, RoutingEvent.isActivation] using step.isActive_iff
  | append_singleton after last inductionHypothesis =>
      rw [← List.cons_append, ← List.append_assoc] at reached
      obtain ⟨earlier, reached, step⟩ := reached.of_concat
      obtain ⟨earlierUnactivated, lastUnactivated⟩ := forall_mem_concat_iff.mp unactivated
      have inactive := inductionHypothesis reached earlierUnactivated
      simpa [inactive, lastUnactivated] using step.isActive_iff

end Reaches

end Routing

/-- A poll finds a session expired just if it is active, a check falls due, and the first check that
was sent since the last sign of life has been waiting for the timeout.  So a session without a timeout
never expires, and neither does one whose peer shows itself after every check before the next falls
due; a check that nobody has answered is not forgiven for the checks sent after it; and a session that
has expired asks for nothing until it is activated again. -/
theorem expiry_of_unanswered_checks {localAddress : UInt16} {interval : Nat} {timeout : Option Nat}
    {history : List RoutingEvent} {routing : Routing}
    (reached : Routing.Reaches { localAddress, interval, timeout } history routing) :
    (∀ now, (routing.poll now).1 = .expired ↔ Unheard interval timeout history now) ∧
      (timeout = none → ∀ now, .polled now .expired ∉ history) ∧
      (AnsweredInTime history → ∀ now, .polled now .expired ∉ history) ∧
      (∀ before sent request between limit now,
        history = before ++ .polled sent (.send request) :: between →
          (∀ event ∈ between, event.isSignOfLife = false) → timeout = some limit →
            sent + limit ≤ now → (routing.poll now).1 ≠ .notDue →
              (routing.poll now).1 = .expired) ∧
      (∀ before now after, history = before ++ .polled now .expired :: after →
        (∀ event ∈ after, event.isActivation = false) →
          ∀ later, (routing.poll later).1 = .notDue) := by
  have follows := reached.follows rfl
  obtain ⟨intervalEq, timeoutEq⟩ := reached.settings
  refine ⟨?characterized, ?untimed, ?answered, ?unforgiven, ?ended⟩
  case characterized =>
    intro now
    rw [follows.poll_eq_expired_iff, intervalEq, timeoutEq]
  case untimed =>
    intro untimed now member
    obtain ⟨before, after, -, unheard⟩ := reached.unheard_of_mem rfl member
    cases unheard with
    | intro _ _ configured => cases untimed.symm.trans configured
  case answered =>
    intro answered now member
    obtain ⟨before, after, rfl, unheard⟩ := reached.unheard_of_mem rfl member
    cases unheard with
    | @intro _ _ _ sent _ _ _ first =>
        obtain ⟨earlier, request, between, rfl, silent⟩ :=
          mem_unanswered_iff.mp (List.mem_of_head? first)
        obtain ⟨event, eventMember, sign⟩ :=
          answered earlier sent request between now .expired after (by simp) nofun
        exact absurd ((silent event eventMember).symm.trans sign) Bool.false_ne_true
  case unforgiven =>
    intro before sent request between limit now whole silent configured waited asked
    have member := mem_unanswered_iff.mpr ⟨before, request, between, whole, silent⟩
    exact follows.poll_eq_expired_of_unanswered member (timeoutEq.trans configured) waited asked
  case ended =>
    rintro before now after rfl unactivated later
    exact Routing.poll_of_inactive (reached.inactive_of_ended rfl unactivated)

/-- The check sent at twenty is the first one that nobody has answered, and has waited for long
enough at forty. -/
theorem expiry_of_unanswered_checks_sample :
    ∃ history routing,
      Routing.Reaches { localAddress := 0x1000, interval := 10, timeout := some 15 } history
        routing ∧
        checksSent history = [10, 20, 30] ∧ unanswered history = [20, 30] ∧
        (routing.poll 40).1 = .expired ∧ Unheard 10 (some 15) history 40 := by
  have reached :
      Routing.Reaches { localAddress := 0x1000, interval := 10, timeout := some 15 }
        [.activated { source := 0x0E80, activationType := 0 } 0,
          .polled 10 (.send { source := 0x1000 }), .touched 15,
          .polled 20 (.send { source := 0x1000 }), .polled 30 (.send { source := 0x1000 })]
        { localAddress := 0x1000, interval := 10, timeout := some 15, peer := some 0x0E80,
          state := .active, lastActivity := some 15, nextCheck := some 40,
          pendingSince := some 20 } :=
    .step (.step (.step (.step (.step .start (.activated _ 0)) (.polled rfl)) (.touched 15))
      (.polled rfl)) (.polled rfl)
  have expired := ((expiry_of_unanswered_checks reached).1 40).mp rfl
  exact ⟨_, _, reached, by decide, by decide, rfl, expired⟩

end DiagnosticGateway
