/-
Module: DiagnosticGateway.Proofs.Link.Custody
Purpose: Who has the ticker, and what the others can do about it.
Main exports:
  TickerView, Whereabouts, Custody, Custody.aside, Custody.begun, Custody.fired, Custody.quit
-/
import DiagnosticGateway.Proofs.Link.Move

/-!
At any time there is at most one ticker.  The owner holds it, or has told it to stop, or knows that it
has stopped.  Time, the host and the ticker itself do not change which of these is the case.
-/

namespace DiagnosticGateway

/-- What of a link concerns the tickers. -/
structure TickerView where
  now : Time
  held : Option Nat
  tickers : List Ticker
  tick : Option Nat
  cancelled : Bool

def Link.tickerView (link : Link) : TickerView :=
  { now := link.now
    held := link.held
    tickers := link.tickers
    tick := link.tick
    cancelled := link.cancelled }

/-- Where the ticker is. -/
inductive Whereabouts where
  /-- There is none. -/
  | absent
  /-- The owner holds it and started it at a time. -/
  | held (number : Nat) (since : Time)
  /-- The owner has told it to stop. -/
  | released (number : Nat)
  /-- It has stopped, and may have left a tick. -/
  | stopped

/-- A ticker is the one that the owner holds, and does not tick within a period of its start. -/
structure Ticker.IsHeld (ticker : Ticker) (period number : Nat) (since : Time) : Prop where
  own : ticker.number = number
  paced : ticker.period = period
  kept : ticker.cancelled = false
  waits : ∀ next ∈ ticker.next, since + period ≤ next

/-- The owner holds the only ticker there is, and that runs unless the link ends. -/
structure TickerView.Holds (view : TickerView) (period number : Nat) (since : Time) : Prop where
  held : view.held = some number
  begun : since ≤ view.now
  only : ∀ ticker ∈ view.tickers, ticker.IsHeld period number since
  single : view.tickers.length ≤ 1
  running : view.cancelled = true ∨ view.tickers ≠ []
  ticked : ∀ origin ∈ view.tick, origin = number ∧ since + period ≤ view.now

/-- The tickers are where they are said to be. -/
inductive Custody (period : Nat) (view : TickerView) : Whereabouts → Prop where
  | absent (free : view.held = none) (gone : view.tickers = []) (empty : view.tick = none) :
      Custody period view .absent
  | held {number : Nat} {since : Time} (holds : view.Holds period number since) :
      Custody period view (.held number since)
  | released {number : Nat} (free : view.held = none)
      (told : ∀ ticker ∈ view.tickers, ticker.number = number ∧ ticker.cancelled = true)
      (single : view.tickers.length ≤ 1) : Custody period view (.released number)
  | stopped (free : view.held = none) (gone : view.tickers = []) : Custody period view .stopped

namespace Custody

variable {period : Nat} {view : TickerView} {place : Whereabouts}

/-- There is at most one ticker. -/
theorem single (holds : Custody period view place) : view.tickers.length ≤ 1 := by
  cases holds with
  | absent _ gone _ => simp [gone]
  | held holds => exact holds.single
  | released _ _ single => exact single
  | stopped _ gone => simp [gone]

/-- A ticker that was not told to stop is the one that the owner holds. -/
theorem held_of_mem (holds : Custody period view place) {ticker : Ticker}
    (member : ticker ∈ view.tickers) (kept : ticker.cancelled = false) :
    view.held = some ticker.number := by
  cases holds with
  | absent _ gone _ => simp [gone] at member
  | held holds => rw [holds.held, (holds.only ticker member).own]
  | released _ told _ => exact absurd ((told ticker member).2.symm.trans kept) (by simp)
  | stopped _ gone => simp [gone] at member

/-! ## Moves of the others -/

/-- Time passes, or the link is asked to end. -/
theorem aside (holds : Custody period view place) {now : Time} {cancelled : Bool}
    (later : view.now ≤ now) (stays : view.cancelled = true → cancelled = true) :
    Custody period { view with now := now, cancelled := cancelled } place := by
  cases holds with
  | absent free gone empty => exact .absent free gone empty
  | held holds =>
      refine .held ⟨holds.held, Nat.le_trans holds.begun later, holds.only, holds.single,
        holds.running.imp_left stays, ?_⟩
      intro origin waiting
      obtain ⟨same, reached⟩ := holds.ticked origin waiting
      exact ⟨same, Nat.le_trans reached later⟩
  | released free told single => exact .released free told single
  | stopped free gone => exact .stopped free gone

/-- A ticker begins to count. -/
theorem begun (holds : Custody period view place) (number : Nat) :
    Custody period
      { view with
        tickers :=
          view.tickers.map fun ticker =>
            if ticker.number = number then ticker.begun view.now else ticker }
      place := by
  cases holds with
  | absent free gone empty => exact .absent free (by simp [gone]) empty
  | held holds =>
      refine .held ⟨holds.held, holds.begun, ?_, by simpa using holds.single,
        by simpa using holds.running, holds.ticked⟩
      intro ticker member
      obtain ⟨before, earlier, rfl⟩ := List.mem_map.mp member
      have own := holds.only before earlier
      split
      · refine ⟨own.own, own.paced, own.kept, ?_⟩
        rintro next ⟨⟩
        rw [own.paced]
        exact Nat.add_le_add_right holds.begun period
      · exact own
  | released free told single =>
      refine .released free ?_ (by simpa using single)
      intro ticker member
      obtain ⟨before, earlier, rfl⟩ := List.mem_map.mp member
      split
      · exact told before earlier
      · exact told before earlier
  | stopped free gone => exact .stopped free (by simp [gone])

/-- A ticker whose time has come queues a tick. -/
theorem fired (holds : Custody period view place) {ticker : Ticker}
    (member : ticker ∈ view.tickers) (due : ticker.isDue view.now = true) :
    Custody period
      { view with
        tickers :=
          view.tickers.map fun other =>
            if other.number = ticker.number then other.ticked view.now else other
        tick := some (view.tick.getD ticker.number) }
      place := by
  cases holds with
  | absent _ gone _ | stopped _ gone => simp [gone] at member
  | held holds =>
      have own := holds.only ticker member
      refine .held ⟨holds.held, holds.begun, ?_, by simpa using holds.single,
        by simpa using holds.running, ?_⟩
      · intro other mapped
        obtain ⟨before, earlier, rfl⟩ := List.mem_map.mp mapped
        have ownBefore := holds.only before earlier
        split
        · refine ⟨ownBefore.own, ownBefore.paced, ownBefore.kept, ?_⟩
          intro next scheduled
          obtain ⟨previous, was, rfl⟩ := Option.map_eq_some_iff.mp scheduled
          have bound := ownBefore.waits previous was
          have passed : previous ≤ if previous + 5 < view.now then view.now else previous := by
            split
            · rename_i late
              exact Nat.le_trans (Nat.le_add_right previous 5) (Nat.le_of_lt late)
            · exact Nat.le_refl _
          exact Nat.le_trans (Nat.le_trans bound passed) (Nat.le_add_right _ _)
        · exact ownBefore
      · rintro origin ⟨⟩
        cases waiting : view.tick with
        | some earlier => exact holds.ticked earlier waiting
        | none =>
            obtain ⟨next, scheduled, reached⟩ := (Option.any_eq_true _ _).mp due
            exact ⟨own.own, Nat.le_trans (own.waits next scheduled) (of_decide_eq_true reached)⟩
  | released free told single =>
      refine .released free ?_ (by simpa using single)
      intro other mapped
      obtain ⟨before, earlier, rfl⟩ := List.mem_map.mp mapped
      split
      · exact told before earlier
      · exact told before earlier

/-- A ticker that was told to stop, or whose link ends, stops. -/
theorem quit (holds : Custody period view place) {ticker : Ticker}
    (member : ticker ∈ view.tickers)
    (told : ticker.cancelled = true ∨ view.cancelled = true) :
    Custody period
      { view with
        tickers := view.tickers.filter fun other => decide (other.number ≠ ticker.number) }
      place := by
  have fewer := List.length_filter_le (fun other : Ticker => decide (other.number ≠ ticker.number))
    view.tickers
  cases holds with
  | absent _ gone _ | stopped _ gone => simp [gone] at member
  | held holds =>
      have ends : view.cancelled = true := by
        rcases told with cancelled | ends
        · exact absurd ((holds.only ticker member).kept.symm.trans cancelled) (by simp)
        · exact ends
      exact .held ⟨holds.held, holds.begun,
        fun other remains => holds.only other (List.mem_filter.mp remains).1,
        Nat.le_trans fewer holds.single, .inl ends, holds.ticked⟩
  | released free each single =>
      exact .released free (fun other remains => each other (List.mem_filter.mp remains).1)
        (Nat.le_trans fewer single)

/-! ## Moves of the owner -/

/-- A tick is taken. -/
theorem untick (holds : Custody period view place) :
    Custody period { view with tick := none } place := by
  cases holds with
  | absent free gone _ => exact .absent free gone rfl
  | held holds =>
      exact .held ⟨holds.held, holds.begun, holds.only, holds.single, holds.running, nofun⟩
  | released free told single => exact .released free told single
  | stopped free gone => exact .stopped free gone

/-- A ticker is told to stop. -/
theorem release {number : Nat} {since : Time} (holds : Custody period view (.held number since)) :
    Custody period
      { view with
        held := none
        tickers :=
          view.tickers.map fun ticker =>
            if ticker.number = number then { ticker with cancelled := true } else ticker }
      (.released number) := by
  cases holds with
  | held holds =>
      refine .released rfl ?_ (by simpa using holds.single)
      intro ticker member
      obtain ⟨before, earlier, rfl⟩ := List.mem_map.mp member
      have own := (holds.only before earlier).own
      rw [if_pos own]
      exact ⟨own, rfl⟩

/-- A ticker that was told to stop has done so. -/
theorem stop {number : Nat} (holds : Custody period view (.released number))
    (gone : ∀ ticker ∈ view.tickers, ticker.number ≠ number) : Custody period view .stopped := by
  cases holds with
  | released free told _ =>
      refine .stopped free (List.eq_nil_iff_forall_not_mem.mpr ?_)
      intro ticker member
      exact gone ticker member (told ticker member).1

/-- The ticks that it has left are dropped. -/
theorem drain (holds : Custody period view .stopped) (empty : view.tick = none) :
    Custody period view .absent := by
  cases holds with
  | stopped free gone => exact .absent free gone empty

/-- A ticker is started. -/
theorem start (holds : Custody period view .absent) (number : Nat) :
    Custody period
      { view with
        held := some number
        tickers := view.tickers ++ [{ number := number, started := view.now, period := period }] }
      (.held number view.now) := by
  cases holds with
  | absent _ gone empty =>
      refine .held ⟨rfl, Nat.le_refl _, ?_, by simp [gone], by simp, by simp [empty]⟩
      intro ticker member
      rw [gone, List.nil_append, List.mem_singleton] at member
      rw [member]
      exact ⟨rfl, rfl, rfl, nofun⟩

end Custody

end DiagnosticGateway
