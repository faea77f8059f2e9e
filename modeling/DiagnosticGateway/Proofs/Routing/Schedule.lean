/-
Module: DiagnosticGateway.Proofs.Routing.Schedule
Purpose: When alive checks fall due, and that a session follows its history.
Main exports:
  dueAfter, OnSchedule, Routing.Follows, Routing.Follows.poll_ne_notDue_iff,
  Routing.Reaches.follows
-/
import DiagnosticGateway.Proofs.Routing.History

/-!
The time at which a check falls due depends on the activation and on the checks sent since, and on
nothing else.  `dueAfter` says how, and `OnSchedule` says that no check was sent before it fell due.
`Routing.Follows` relates a session to its history: whether it is active, when the next check falls
due, and since when a check has been pending.
-/

namespace DiagnosticGateway

/-! ## The schedule -/

section

variable {interval start : Nat} {sent : List Nat}

/-- When the next check falls due.  The first one falls due an interval after the activation, and
each one after it an interval after the one before fell due; after a check that was sent a whole
interval late or more, it is an interval after the sending. -/
def dueAfter (interval start : Nat) (sent : List Nat) : Nat :=
  sent.foldl (fun due now => if due + interval ≤ now then now + interval else due + interval)
    (start + interval)

/-- No check was sent before it fell due. -/
inductive OnSchedule (interval start : Nat) : List Nat → Prop where
  | nil : OnSchedule interval start []
  | concat {sent : List Nat} {now : Nat} (earlier : OnSchedule interval start sent)
      (reached : dueAfter interval start sent ≤ now) : OnSchedule interval start (sent ++ [now])

theorem dueAfter_concat (interval start now : Nat) (sent : List Nat) :
    dueAfter interval start (sent ++ [now]) =
      if dueAfter interval start sent + interval ≤ now then now + interval
      else dueAfter interval start sent + interval := by
  rw [dueAfter, List.foldl_concat]
  rfl

/-- Every check puts the next one off by an interval at least. -/
theorem add_le_dueAfter_concat (interval start now : Nat) (sent : List Nat) :
    dueAfter interval start sent + interval ≤ dueAfter interval start (sent ++ [now]) := by
  rw [dueAfter_concat]
  split <;> omega

/-- A check is followed by an interval at least in which none falls due. -/
theorem le_dueAfter_concat (interval start now : Nat) (sent : List Nat) :
    now ≤ dueAfter interval start (sent ++ [now]) := by
  rw [dueAfter_concat]
  split <;> omega

/-- There is a whole interval for every check that was sent, and one more before the next. -/
theorem add_mul_le_dueAfter (interval start : Nat) (sent : List Nat) :
    start + (sent.length + 1) * interval ≤ dueAfter interval start sent := by
  induction sent using List.reverseRecOn with
  | nil => rw [List.length_nil, Nat.zero_add, Nat.one_mul]; exact Nat.le_refl _
  | append_singleton sent now inductionHypothesis =>
      have later := add_le_dueAfter_concat interval start now sent
      rw [List.length_append, List.length_singleton, Nat.succ_mul]
      omega

namespace OnSchedule

/-- Nothing that was sent was sent after the next check falls due. -/
theorem le_dueAfter (onSchedule : OnSchedule interval start sent) :
    ∀ time ∈ sent, time ≤ dueAfter interval start sent := by
  induction onSchedule with
  | nil => nofun
  | @concat sent now earlier reached inductionHypothesis =>
      have later := add_le_dueAfter_concat interval start now sent
      intro time member
      rcases List.mem_append.mp member with old | new
      · exact Nat.le_trans (inductionHypothesis time old) (Nat.le_of_add_right_le later)
      · rw [List.mem_singleton.mp new]
        exact le_dueAfter_concat interval start now sent

/-- Checks are sent one after the other. -/
theorem pairwise_le (onSchedule : OnSchedule interval start sent) : sent.Pairwise (· ≤ ·) := by
  induction onSchedule with
  | nil => exact .nil
  | concat earlier reached inductionHypothesis =>
      refine List.pairwise_append.mpr ⟨inductionHypothesis, List.pairwise_singleton _ _, ?_⟩
      intro time old now new
      rw [List.mem_singleton.mp new]
      exact Nat.le_trans (earlier.le_dueAfter time old) reached

end OnSchedule

end

/-! ## What a history says about a session -/

/-- A session is active, has its next check due and has a check pending as its history says, and no
check was sent before it fell due. -/
structure Routing.Follows (routing : Routing) (history : List RoutingEvent) : Prop where
  activity : routing.isActive = true ↔ ∃ between start, ActiveSince history between start
  punctual : ∀ {between start}, ActivatedSince history between start →
    OnSchedule routing.interval start (checksSent between)
  scheduled : routing.isActive = true → ∀ {between start}, ActivatedSince history between start →
    routing.nextCheck = some (dueAfter routing.interval start (checksSent between))
  pending : routing.isActive = true → routing.pendingSince = (unanswered history).head?

namespace Routing

variable {first routing next : Routing} {history : List RoutingEvent} {event : RoutingEvent}

theorem isActive_deactivate (routing : Routing) : routing.deactivate.isActive = false := by
  cases stateEq : routing.state with
  | idle | active | inactive => simp [isActive, deactivate, stateEq]

namespace Step

theorem interval (step : routing.Step event next) : next.interval = routing.interval := by
  cases step with
  | activated | touched | answered | deactivated => rfl
  | polled outcome => cases pollOutcome_of_eq outcome <;> rfl

theorem isActive_iff (step : routing.Step event next) :
    next.isActive = true ↔
      event.isActivation = true ∨ event.endsSession = false ∧ routing.isActive = true := by
  cases step with
  | activated request now => exact ⟨fun _ => .inl rfl, fun _ => rfl⟩
  | touched | answered =>
      exact ⟨fun active => .inr ⟨rfl, active⟩, fun cause => (cause.resolve_left nofun).2⟩
  | deactivated =>
      rw [isActive_deactivate]
      exact ⟨nofun, fun cause => absurd (cause.resolve_left nofun).1 nofun⟩
  | polled outcome =>
      cases pollOutcome_of_eq outcome with
      | notDue | sent =>
          exact ⟨fun active => .inr ⟨rfl, active⟩, fun cause => (cause.resolve_left nofun).2⟩
      | expired =>
          rw [isActive_deactivate]
          exact ⟨nofun, fun cause => absurd (cause.resolve_left nofun).1 nofun⟩

end Step

namespace Follows

theorem punctual_step (follows : routing.Follows history) (step : routing.Step event next)
    {between : List RoutingEvent} {start : Time}
    (since : ActivatedSince (history ++ [event]) between start) :
    OnSchedule next.interval start (checksSent between) := by
  rw [step.interval]
  rcases since.of_concat with ⟨rfl, request, rfl⟩ | ⟨earlier, rfl, other, sinceBefore⟩
  · exact .nil
  have punctual := follows.punctual sinceBefore
  cases step with
  | activated => cases other
  | touched | answered | deactivated => rwa [checksSent_concat_of_none rfl]
  | polled outcome =>
      cases pollOutcome_of_eq outcome with
      | notDue | expired => rwa [checksSent_concat_of_none rfl]
      | sent active scheduled reached =>
          -- The session polled when it was due by its own schedule, which is that of its history.
          rw [checksSent_concat_of_some rfl]
          obtain rfl := Option.some.inj (scheduled.symm.trans (follows.scheduled active sinceBefore))
          exact .concat punctual reached

theorem scheduled_step (follows : routing.Follows history) (step : routing.Step event next)
    (active : next.isActive = true) {between : List RoutingEvent} {start : Time}
    (since : ActivatedSince (history ++ [event]) between start) :
    next.nextCheck = some (dueAfter next.interval start (checksSent between)) := by
  rw [step.interval]
  rcases since.of_concat with ⟨rfl, request, rfl⟩ | ⟨earlier, rfl, other, sinceBefore⟩
  · cases step
    rfl
  obtain ⟨unending, wasActive⟩ := (step.isActive_iff.mp active).resolve_left (by simp [other])
  have scheduled := follows.scheduled wasActive sinceBefore
  cases step with
  | activated => cases other
  | deactivated => cases unending
  | touched | answered => rwa [checksSent_concat_of_none rfl]
  | polled outcome =>
      cases pollOutcome_of_eq outcome with
      | expired => cases unending
      | notDue => rwa [checksSent_concat_of_none rfl]
      | sent _ due =>
          obtain rfl := Option.some.inj (due.symm.trans scheduled)
          rw [checksSent_concat_of_some rfl, dueAfter_concat]
          rfl

theorem pending_step (follows : routing.Follows history) (step : routing.Step event next)
    (active : next.isActive = true) :
    next.pendingSince = (unanswered (history ++ [event])).head? := by
  cases step with
  | activated | touched | answered =>
      rw [unanswered_concat_of_sign rfl]
      rfl
  | deactivated =>
      rw [isActive_deactivate] at active
      cases active
  | polled outcome =>
      rw [unanswered_concat_of_silent rfl]
      cases pollOutcome_of_eq outcome with
      | notDue =>
          rw [follows.pending active]
          exact congrArg List.head? (List.append_nil _).symm
      | sent wasActive =>
          rw [List.head?_append, ← follows.pending wasActive]
          cases routing.pendingSince <;> rfl
      | expired =>
          rw [isActive_deactivate] at active
          cases active

theorem step (follows : routing.Follows history) (step : routing.Step event next) :
    next.Follows (history ++ [event]) where
  activity := by rw [step.isActive_iff, exists_activeSince_concat_iff, follows.activity]
  punctual := follows.punctual_step step
  scheduled := follows.scheduled_step step
  pending := follows.pending_step step

end Follows

namespace Follows

variable {now : Nat}

/-- A poll asks for something just if the session is active and a check is due. -/
theorem poll_ne_notDue_iff (follows : routing.Follows history) :
    (routing.poll now).1 ≠ .notDue ↔
      ∃ between start, ActiveSince history between start ∧
        dueAfter routing.interval start (checksSent between) ≤ now := by
  rw [Routing.poll_ne_notDue_iff]
  constructor
  · rintro ⟨active, due, scheduled, reached⟩
    obtain ⟨between, start, since⟩ := follows.activity.mp active
    rw [follows.scheduled active since.toActivatedSince] at scheduled
    obtain rfl := Option.some.inj scheduled
    exact ⟨between, start, since, reached⟩
  · rintro ⟨between, start, since, reached⟩
    have active := follows.activity.mpr ⟨between, start, since⟩
    exact ⟨active, _, follows.scheduled active since.toActivatedSince, reached⟩

end Follows

/-- A session that has never been active follows its history, whatever is called. -/
theorem Reaches.follows (idle : first.state = .idle) (reached : Reaches first history routing) :
    routing.Follows history := by
  induction reached with
  | start =>
      have inactive : ¬first.isActive = true := by simp [isActive, idle]
      have nothing : ∀ between start, ¬ActivatedSince [] between start := by
        rintro between start ⟨⟨prior, request, whole⟩, -⟩
        simp at whole
      refine ⟨⟨fun active => absurd active inactive, ?_⟩, ?_, ?_, ?_⟩
      · rintro ⟨between, start, since⟩
        exact absurd since.toActivatedSince (nothing _ _)
      · intro between start since
        exact absurd since (nothing _ _)
      · intro active
        exact absurd active inactive
      · intro active
        exact absurd active inactive
  | step reached step inductionHypothesis => exact inductionHypothesis.step step

end Routing

end DiagnosticGateway
