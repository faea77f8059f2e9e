/-
Module: DiagnosticGateway.Proofs.Routing.Session
Purpose: Who owns a routing session, and what each operation does to it.
Main exports:
  Routing.accepts_iff, Routing.PollOutcome, Routing.pollOutcome_poll,
  Routing.pollOutcome_of_eq, Routing.poll_cases, Routing.poll_ne_notDue_iff,
  Routing.poll_eq_expired_iff, Routing.overdue_iff, Routing.poll_of_expired
-/
import DiagnosticGateway.Routing

namespace DiagnosticGateway.Routing

variable {routing : Routing} {source : UInt16} {now : Time}

theorem isActive_iff : routing.isActive = true ↔ routing.state = .active := by simp [isActive]

/-- The accepted address is that of the activated peer. -/
theorem accepts_iff :
    routing.accepts source = true ↔ routing.isActive = true ∧ routing.peer = some source := by
  simp [accepts]

/-- No two addresses are accepted. -/
theorem accepts_unique {other : UInt16} (accepted : routing.accepts source = true)
    (otherAccepted : routing.accepts other = true) : other = source := by
  have peer := (accepts_iff.mp accepted).2
  have otherPeer := (accepts_iff.mp otherAccepted).2
  exact Option.some.inj (otherPeer.symm.trans peer)

@[simp] theorem peer_deactivate : routing.deactivate.peer = routing.peer := rfl

/-- A session that is not active stays as it is when it is left. -/
theorem state_deactivate (inactive : routing.isActive = false) :
    routing.deactivate.state = routing.state := by
  cases stateEq : routing.state with
  | idle => simp [deactivate, stateEq]
  | active => simp [isActive, stateEq] at inactive
  | inactive => simp [deactivate, stateEq]

/-- Everything that a poll can do. -/
inductive PollOutcome (routing : Routing) (now : Time) : AliveCheck × Routing → Prop where
  /-- The session is not active, or no check is due yet. -/
  | notDue (early : routing.isActive = true → ∀ due, routing.nextCheck = some due → now < due) :
      PollOutcome routing now (.notDue, routing)
  /-- A check is due, and none has been pending for too long. -/
  | sent {due : Time} (active : routing.isActive = true) (scheduled : routing.nextCheck = some due)
      (reached : due ≤ now) (patient : routing.overdue now = false) :
      PollOutcome routing now
        (.send { source := routing.localAddress },
          { routing with
            nextCheck := some (routing.checkAfter due now)
            pendingSince := some (routing.pendingSince.getD now) })
  /-- A check is due, and one has been pending for too long. -/
  | expired {due : Time} (active : routing.isActive = true)
      (scheduled : routing.nextCheck = some due) (reached : due ≤ now)
      (overdue : routing.overdue now = true) :
      PollOutcome routing now (.expired, routing.deactivate)

theorem pollOutcome_poll (routing : Routing) (now : Time) :
    routing.PollOutcome now (routing.poll now) := by
  unfold poll
  split
  · rename_i due active scheduled
    split
    · rename_i early
      refine .notDue fun _ other otherScheduled => ?_
      obtain rfl := Option.some.inj (scheduled.symm.trans otherScheduled)
      exact early
    · rename_i reached
      split
      · rename_i overdue
        exact .expired (isActive_iff.mpr active) scheduled (Nat.not_lt.mp reached) overdue
      · rename_i patient
        exact .sent (isActive_iff.mpr active) scheduled (Nat.not_lt.mp reached)
          (Bool.not_eq_true _ ▸ patient)
  · rename_i unscheduled
    refine .notDue fun active due scheduled => ?_
    exact absurd scheduled (unscheduled due (isActive_iff.mp active))

theorem pollOutcome_of_eq {check : AliveCheck} {next : Routing}
    (polled : routing.poll now = (check, next)) : routing.PollOutcome now (check, next) :=
  polled ▸ routing.pollOutcome_poll now

/-- The schedule asks for nothing and changes nothing, or it asks for a check and keeps the owner, or
it leaves an active session. -/
theorem poll_cases (routing : Routing) (now : Time) :
    routing.poll now = (.notDue, routing) ∨
      (∃ request next, routing.poll now = (.send request, next) ∧
        next.state = routing.state ∧ next.peer = routing.peer) ∨
      (routing.isActive = true ∧ routing.poll now = (.expired, routing.deactivate)) := by
  have outcome := routing.pollOutcome_poll now
  generalize routing.poll now = polled at outcome ⊢
  cases outcome with
  | notDue => exact .inl rfl
  | sent => exact .inr (.inl ⟨_, _, rfl, rfl, rfl⟩)
  | expired active => exact .inr (.inr ⟨active, rfl⟩)

/-- A poll asks for something just if the session is active and a check is due. -/
theorem poll_ne_notDue_iff :
    (routing.poll now).1 ≠ .notDue ↔
      routing.isActive = true ∧ ∃ due, routing.nextCheck = some due ∧ due ≤ now := by
  have outcome := routing.pollOutcome_poll now
  generalize routing.poll now = polled at outcome ⊢
  cases outcome with
  | notDue early =>
      refine ⟨fun asked => absurd rfl asked, ?_⟩
      rintro ⟨active, due, scheduled, reached⟩
      exact absurd reached (Nat.not_le.mpr (early active due scheduled))
  | sent active scheduled reached | expired active scheduled reached =>
      exact ⟨fun _ => ⟨active, _, scheduled, reached⟩, fun _ => nofun⟩

theorem poll_of_inactive (inactive : routing.isActive = false) :
    (routing.poll now).1 = .notDue := by
  refine Decidable.byContradiction fun asked => ?_
  exact absurd (inactive.symm.trans (poll_ne_notDue_iff.mp asked).1) Bool.false_ne_true

/-- A poll that asks for something finds the session expired just if a check is overdue. -/
theorem poll_eq_expired_iff :
    (routing.poll now).1 = .expired ↔
      (routing.poll now).1 ≠ .notDue ∧ routing.overdue now = true := by
  have outcome := routing.pollOutcome_poll now
  generalize routing.poll now = polled at outcome ⊢
  cases outcome with
  | notDue => exact ⟨nofun, fun asked => absurd rfl asked.1⟩
  | sent _ _ _ patient =>
      exact ⟨nofun, fun asked => absurd (patient.symm.trans asked.2) Bool.false_ne_true⟩
  | expired _ _ _ overdue => exact ⟨fun _ => ⟨nofun, overdue⟩, fun _ => rfl⟩

theorem overdue_iff :
    routing.overdue now = true ↔
      ∃ sent limit, routing.pendingSince = some sent ∧ routing.timeout = some limit ∧
        limit ≤ now - sent := by
  unfold overdue
  split
  · rename_i sent limit pending configured
    simp [pending, configured]
  · rename_i unset
    refine ⟨nofun, ?_⟩
    rintro ⟨sent, limit, pending, configured, -⟩
    exact absurd configured (unset sent limit pending)

/-- The check expires only in an active session, and the session is left. -/
theorem poll_of_expired (expired : (routing.poll now).1 = .expired) :
    routing.isActive = true ∧ routing.poll now = (.expired, routing.deactivate) := by
  rcases routing.poll_cases now with notDue | ⟨request, next, send, -, -⟩ | left
  · rw [notDue] at expired
    cases expired
  · rw [send] at expired
    cases expired
  · exact left

end DiagnosticGateway.Routing
