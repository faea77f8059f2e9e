/-
Module: DiagnosticGateway.Proofs.Routing.Cadence
Purpose: Alive checks are an interval apart at least on average, and at most when they are polled for.
Main exports:
  OnSchedule.le_getElem, OnSchedule.length_filter_le, OnSchedule.dueAfter_le,
  Routing.Reaches.checksSent_pairwise_lt, alive_checks_keep_cadence
-/
import DiagnosticGateway.Proofs.Routing.Schedule

/-!
A check that is sent late does not put off the ones after it, unless it was a whole interval late.  So
two checks may be less than an interval apart; but counted from the activation there is a whole
interval for each of them, and no check falls due later than an interval after the one before.
-/

namespace DiagnosticGateway

/-! ## Bounds of a schedule -/

namespace OnSchedule

variable {interval start : Nat} {sent : List Nat}

/-- There is a whole interval before every check, and none of it is counted twice. -/
theorem le_getElem (onSchedule : OnSchedule interval start sent) (index : Nat)
    (inside : index < sent.length) : start + (index + 1) * interval ≤ sent[index] := by
  induction onSchedule with
  | nil => exact absurd inside (Nat.not_lt_zero index)
  | @concat sent now earlier reached inductionHypothesis =>
      rw [List.getElem_append]
      split
      · rename_i old
        exact inductionHypothesis old
      · rename_i new
        obtain rfl : index = sent.length := by
          rw [List.length_append, List.length_singleton] at inside
          omega
        rw [List.getElem_singleton]
        exact Nat.le_trans (add_mul_le_dueAfter interval start sent) reached

/-- By a given time, no more checks have been sent than there are whole intervals until then. -/
theorem length_filter_le (onSchedule : OnSchedule interval start sent) (positive : 0 < interval)
    (time : Nat) : (sent.filter (· ≤ time)).length ≤ (time - start) / interval := by
  induction onSchedule with
  | nil => exact Nat.zero_le _
  | @concat sent now earlier reached inductionHypothesis =>
      by_cases counted : now ≤ time
      · have enough := add_mul_le_dueAfter interval start sent
        have room : (sent.length + 1) * interval ≤ time - start := by omega
        calc ((sent ++ [now]).filter (· ≤ time)).length
            ≤ (sent ++ [now]).length := List.length_filter_le _ _
          _ = sent.length + 1 := List.length_append
          _ ≤ (time - start) / interval := (Nat.le_div_iff_mul_le positive).mpr room
      · rw [List.filter_append, List.filter_singleton, decide_eq_false counted]
        simpa using inductionHypothesis

/-- A check falls due an interval after the one before was sent, if not earlier. -/
theorem dueAfter_le (onSchedule : OnSchedule interval start sent) :
    dueAfter interval start sent ≤ sent.getLastD start + interval := by
  cases onSchedule with
  | nil => exact Nat.le_refl _
  | concat earlier reached =>
      rw [dueAfter_concat, List.getLastD_concat]
      split <;> omega

/-- Of all checks that were sent, none was sent when the next one falls due. -/
theorem lt_dueAfter (onSchedule : OnSchedule interval start sent) (positive : 0 < interval) :
    ∀ time ∈ sent, time < dueAfter interval start sent := by
  cases onSchedule with
  | nil => nofun
  | @concat sent now earlier reached =>
      intro time member
      rcases List.mem_append.mp member with old | new
      · have before := earlier.le_dueAfter time old
        have later := add_le_dueAfter_concat interval start now sent
        omega
      · rw [List.mem_singleton.mp new, dueAfter_concat]
        split <;> omega

end OnSchedule

/-! ## Checks of a history -/

/-- What was sent before the last activation was not sent later. -/
theorem ActivatedSince.le_start_or_mem {history between : List RoutingEvent} {start sent : Time}
    (since : ActivatedSince history between start) (ordered : (times history).Pairwise (· ≤ ·))
    (member : sent ∈ checksSent history) : sent ≤ start ∨ sent ∈ checksSent between := by
  obtain ⟨⟨prior, request, rfl⟩, -⟩ := since
  rw [times, List.filterMap_append, List.pairwise_append] at ordered
  rw [checksSent, List.filterMap_append, List.mem_append] at member
  rcases member with old | new
  · exact .inl (ordered.2.2 sent (mem_times_of_mem_checksSent old) start List.mem_cons_self)
  · exact .inr new

namespace Routing

variable {first routing : Routing} {history between : List RoutingEvent} {start now : Nat}

/-- Of all checks of a history, none was sent when the next one falls due. -/
theorem Follows.lt_dueAfter (follows : routing.Follows history) (positive : 0 < routing.interval)
    (ordered : (times history).Pairwise (· ≤ ·)) (since : ActivatedSince history between start) :
    ∀ sent ∈ checksSent history, sent < dueAfter routing.interval start (checksSent between) := by
  intro sent member
  rcases since.le_start_or_mem ordered member with before | after
  · have enough := add_mul_le_dueAfter routing.interval start (checksSent between)
    have whole : routing.interval ≤ ((checksSent between).length + 1) * routing.interval :=
      Nat.le_mul_of_pos_left _ (Nat.succ_pos _)
    exact Nat.lt_of_le_of_lt before (by omega)
  · exact (follows.punctual since).lt_dueAfter positive sent after

/-- No two checks are sent at the same time. -/
theorem Reaches.checksSent_pairwise_lt (idle : first.state = .idle) (positive : 0 < first.interval)
    (reached : Reaches first history routing) (ordered : (times history).Pairwise (· ≤ ·)) :
    (checksSent history).Pairwise (· < ·) := by
  induction reached with
  | start => exact .nil
  | @step history event routing next reached step inductionHypothesis =>
      rw [times, List.filterMap_append] at ordered
      have earlierOrdered : (times history).Pairwise (· ≤ ·) := (List.pairwise_append.mp ordered).1
      have earlier := inductionHypothesis earlierOrdered
      cases step with
      | activated | touched | answered | deactivated => rwa [checksSent_concat_of_none rfl]
      | @polled now check _ outcome =>
          cases check with
          | notDue | expired => rwa [checksSent_concat_of_none rfl]
          | send request =>
              -- A check that is sent has fallen due, and all others were sent before it did.
              have asked : (routing.poll now).1 ≠ .notDue := by rw [outcome]; nofun
              have follows := reached.follows idle
              obtain ⟨between, start, since, due⟩ := follows.poll_ne_notDue_iff.mp asked
              have before := follows.lt_dueAfter (reached.settings.1 ▸ positive) earlierOrdered
                since.toActivatedSince
              rw [checksSent_concat_of_some rfl, List.pairwise_append]
              refine ⟨earlier, List.pairwise_singleton _ _, fun sent member => ?_⟩
              rw [List.forall_mem_singleton]
              exact Nat.lt_of_lt_of_le (before sent member) due

end Routing

/-- Counted from an activation there is a whole interval for every check that is sent, so that no
more are sent by a given time than there are whole intervals until then; on a clock that never goes
back no two are sent at the same time; and an active session that is polled an interval after the
last check, or after the activation if there was none, always asks for something. -/
theorem alive_checks_keep_cadence {localAddress : UInt16} {interval : Nat} {timeout : Option Nat}
    {history : List RoutingEvent} {routing : Routing} (positive : 0 < interval)
    (reached : Routing.Reaches { localAddress, interval, timeout } history routing) :
    (∀ between start, ActivatedSince history between start →
      (∀ index (inside : index < (checksSent between).length),
        start + (index + 1) * interval ≤ (checksSent between)[index]) ∧
      ∀ time, ((checksSent between).filter (· ≤ time)).length ≤ (time - start) / interval) ∧
      ((times history).Pairwise (· ≤ ·) → (checksSent history).Pairwise (· < ·)) ∧
      ∀ between start now, ActiveSince history between start →
        (checksSent between).getLastD start + interval ≤ now → (routing.poll now).1 ≠ .notDue := by
  have follows := reached.follows rfl
  have intervalEq : routing.interval = interval := reached.settings.1
  refine ⟨?paced, reached.checksSent_pairwise_lt rfl positive, ?asked⟩
  case paced =>
    intro between start since
    have onSchedule := follows.punctual since
    rw [intervalEq] at onSchedule
    exact ⟨onSchedule.le_getElem, onSchedule.length_filter_le positive⟩
  case asked =>
    intro between start now since late
    have due := (follows.punctual since.toActivatedSince).dueAfter_le
    rw [← intervalEq] at late
    exact follows.poll_ne_notDue_iff.mpr ⟨between, start, since, Nat.le_trans due late⟩

/-- The second check is sent late and the third one on time, and a fourth one is due at forty. -/
theorem alive_checks_keep_cadence_sample :
    ∃ history routing,
      0 < 10 ∧
        Routing.Reaches { localAddress := 0x1000, interval := 10, timeout := none } history routing ∧
        (times history).Pairwise (· ≤ ·) ∧ checksSent history = [10, 27, 30] ∧
        (checksSent history).Pairwise (· < ·) ∧ (routing.poll 40).1 ≠ .notDue := by
  have reached :
      Routing.Reaches { localAddress := 0x1000, interval := 10, timeout := none }
        [.activated { source := 0x0E80, activationType := 0 } 0,
          .polled 10 (.send { source := 0x1000 }), .polled 27 (.send { source := 0x1000 }),
          .polled 30 (.send { source := 0x1000 })]
        { localAddress := 0x1000, interval := 10, timeout := none, peer := some 0x0E80,
          state := .active, lastActivity := some 0, nextCheck := some 40,
          pendingSince := some 10 } :=
    .step (.step (.step (.step .start (.activated _ 0)) (.polled rfl)) (.polled rfl)) (.polled rfl)
  obtain ⟨-, distinct, asked⟩ := alive_checks_keep_cadence (by decide) reached
  exact ⟨_, _, by decide, reached, by decide, by decide, distinct (by decide),
    asked _ 0 40 ⟨⟨⟨[], _, rfl⟩, by decide⟩, by decide⟩ (by decide)⟩

end DiagnosticGateway
