/-
Module: DiagnosticGateway.Proofs.Link.Upkeep
Purpose: The ticker and the status follow the routing of the gateway.
Main exports:
  LinkNote.activation?, LastTicker, OwnerPhase.Suits, Link.Upkeep, Link.Reaches.upkeep,
  Link.FollowsRouting, ticker_follows_routing
-/
import DiagnosticGateway.Proofs.Gateway.SessionStep
import DiagnosticGateway.Proofs.Link.Custody
import DiagnosticGateway.Proofs.Link.Delivered

/-!
When the owner has taken an input, the ticker may be the wrong one: routing was activated anew or has
ended.  Before it waits again the owner puts this right, and what the ticker has queued in the
meantime is dropped with it.  `Link.Upkeep` says for every phase of the owner where the ticker is and
what it has to do with routing; each move keeps it.
-/

namespace DiagnosticGateway

/-! ## Journals -/

/-- When routing was activated, if a note tells of that. -/
def LinkNote.activation? : LinkNote → Option Time
  | .exchanged { input := .frame _ now, output := output } =>
      if output.activates then some now else none
  | _ => none

/-- A ticker was started at a time, and routing has not been activated since. -/
structure LastTicker (journal : List LinkNote) (number : Nat) (since : Time) : Prop where
  started : ∃ earlier later, journal = earlier ++ .started number since :: later ∧
    ∀ note ∈ later, note.activation? = none
  bound : ∀ note ∈ journal, ∀ time ∈ note.activation?, time ≤ since

/-- What does not activate routing does not make a ticker an old one. -/
theorem LastTicker.append {journal notes : List LinkNote} {number : Nat} {since : Time}
    (last : LastTicker journal number since) (quiet : ∀ note ∈ notes, note.activation? = none) :
    LastTicker (journal ++ notes) number since := by
  obtain ⟨⟨earlier, later, rfl, unactivated⟩, bound⟩ := last
  constructor
  · refine ⟨earlier, later ++ notes, by simp, ?_⟩
    intro note member
    rcases List.mem_append.mp member with old | new
    · exact unactivated note old
    · exact quiet note new
  · intro note member time activated
    rcases List.mem_append.mp member with old | new
    · exact bound note old time activated
    · rw [quiet note new] at activated
      cases activated

/-- A ticker that was just started is the last one. -/
theorem LastTicker.concat {journal : List LinkNote} {number : Nat} {now : Time}
    (past : ∀ note ∈ journal, ∀ time ∈ note.activation?, time ≤ now) :
    LastTicker (journal ++ [.started number now]) number now := by
  constructor
  · exact ⟨journal, [], rfl, nofun⟩
  · intro note member time activated
    rcases List.mem_append.mp member with old | new
    · exact past note old time activated
    · rw [List.mem_singleton.mp new] at activated
      cases activated

theorem LinkNote.activation?_exchanged {exchange : Exchange}
    (kept : exchange.output.activates = false) :
    (LinkNote.exchanged exchange).activation? = none := by
  obtain ⟨input, output⟩ := exchange
  cases input with
  | frame frame now =>
      rw [activation?, kept]
      rfl
  | poll | deactivate | reset => rfl

/-! ## What each phase of the owner needs -/

/-- The owner has no ticker, or holds one. -/
def Whereabouts.Settled : Whereabouts → Prop
  | .absent | .held _ _ => True
  | .released _ | .stopped => False

/-- The owner holds a ticker that was started after the last activation. -/
def Whereabouts.Fresh (journal : List LinkNote) : Whereabouts → Prop
  | .held number since => LastTicker journal number since
  | .absent | .released _ | .stopped => False

/-- There is a fresh ticker if routing is active, and none if it is not. -/
def Whereabouts.Fits (journal : List LinkNote) (active : Bool) (place : Whereabouts) : Prop :=
  if active then place.Fresh journal else place = .absent

namespace Whereabouts

variable {journal notes : List LinkNote} {place : Whereabouts} {active : Bool}

theorem Fresh.append (fresh : place.Fresh journal)
    (quiet : ∀ note ∈ notes, note.activation? = none) : place.Fresh (journal ++ notes) := by
  cases place with
  | held number since => exact LastTicker.append fresh quiet
  | absent | released number | stopped => exact fresh

theorem fits_of_fresh (routed : active = true) (fresh : place.Fresh journal) :
    place.Fits journal active := by
  rw [Fits, routed, if_pos rfl]
  exact fresh

theorem fits_of_inactive (unrouted : active = false) : absent.Fits journal active := by
  rw [Fits, unrouted]
  rfl

theorem Fits.fresh (fits : place.Fits journal active) (routed : active = true) :
    place.Fresh journal := by
  rwa [Fits, routed, if_pos rfl] at fits

theorem Fits.settled (fits : place.Fits journal active) : place.Settled := by
  cases active with
  | true =>
      cases place with
      | held | absent => trivial
      | released | stopped => exact fits
  | false =>
      cases fits
      trivial

end Whereabouts

/-- The place of the ticker and the published status suit what the owner does next. -/
def OwnerPhase.Suits (journal : List LinkNote) (gateway : Gateway) (status : LinkStatus)
    (place : Whereabouts) : OwnerPhase → Prop
  | .waiting | .sending _ _ | .passing _ =>
      place.Fits journal gateway.routing.isActive ∧ status = .ofGateway gateway
  | .writing _ delivery | .adjusting delivery =>
      place.Settled ∧
        (delivery.reactivates = false → gateway.routing.isActive = true → place.Fresh journal)
  | .awaiting number _ => place = .released number
  | .draining _ => place = .stopped
  | .starting _ => place = .absent ∨ place.Fits journal gateway.routing.isActive
  | .publishing _ => place.Fits journal gateway.routing.isActive
  | .leaving _ => place.Settled
  | .stoppingReader _ | .forgetting _ => place = .absent
  | .ended _ => place = .absent ∧ status = {}

/-- What comes after the ticker does so without one. -/
theorem AfterTicker.suits_phase {journal : List LinkNote} {gateway : Gateway} {status : LinkStatus}
    (sequel : AfterTicker) : sequel.phase.Suits journal gateway status .absent := by
  cases sequel with
  | deliver delivery => exact .inl rfl
  | leave outcome => exact rfl

/-! ## Moves -/

namespace Link

variable {period : Nat} {journal notes : List LinkNote} {before after : Link} {place : Whereabouts}

/-- An input that does not activate routing leaves a fresh ticker fresh, if routing is still active. -/
theorem fresh_of_exchange {gateway : Gateway} (fits : place.Fits journal gateway.routing.isActive)
    (input : GatewayInput) (kept : (gateway.step input).1.activates = false)
    (active : (gateway.step input).2.routing.isActive = true) :
    place.Fresh (journal ++ [.exchanged (gateway.exchange input)]) := by
  have was : gateway.routing.isActive = true := by
    rcases gateway.activates_or_isActive active with activates | was
    · exact absurd (activates.symm.trans kept) (by simp)
    · exact was
  apply (fits.fresh was).append
  intro note member
  rw [List.mem_singleton.mp member]
  exact LinkNote.activation?_exchanged kept

theorem releaseTicker_of_free {link : Link} (free : link.held = none) (sequel : AfterTicker) :
    link.releaseTicker sequel = { link with owner := sequel.phase } := by
  rw [releaseTicker, free]

theorem releaseTicker_of_held {link : Link} {number : Nat} (held : link.held = some number)
    (sequel : AfterTicker) :
    link.releaseTicker sequel =
      { link with
        held := none
        tickers :=
          link.tickers.map fun ticker =>
            if ticker.number = number then { ticker with cancelled := true } else ticker
        owner := .awaiting number sequel } := by
  rw [releaseTicker, held]

/-- A ticker that the owner holds is told to stop; otherwise the owner goes on at once. -/
theorem tended_releaseTicker {link : Link} (custody : Custody period link.tickerView place)
    (settled : place.Settled) (sequel : AfterTicker) :
    ∃ next, Custody period (link.releaseTicker sequel).tickerView next ∧
      (link.releaseTicker sequel).owner.Suits journal (link.releaseTicker sequel).gateway
        (link.releaseTicker sequel).status next := by
  cases custody with
  | absent free gone empty =>
      rw [releaseTicker_of_free free]
      exact ⟨.absent, .absent free gone empty, sequel.suits_phase⟩
  | held holds =>
      rw [releaseTicker_of_held holds.held]
      exact ⟨_, (Custody.held holds).release, rfl⟩
  | released | stopped => exact settled.elim

/-- A move that has nothing to note leaves the ticker where the owner then needs it. -/
theorem Moves.tended_of_silent (moves : Moves before [] after)
    (custody : Custody period before.tickerView place)
    (suits : before.owner.Suits journal before.gateway before.status place) :
    ∃ next, Custody period after.tickerView next ∧
      after.owner.Suits journal after.gateway after.status next := by
  cases moves with
  | aside outside later stays => exact ⟨place, custody.aside later stays, suits⟩
  | begun => exact ⟨place, custody.begun _, suits⟩
  | fired member due => exact ⟨place, custody.fired member due, suits⟩
  | quit member told => exact ⟨place, custody.quit member told, suits⟩
  | tookCall outside waiting =>
      rw [waiting] at suits
      exact ⟨place, custody, suits⟩
  | tookEnd outside waiting =>
      rw [waiting] at suits
      exact ⟨place, custody, suits.1.settled⟩
  | wrote outside writing | wroteAll writing =>
      rw [writing] at suits
      exact ⟨place, custody, suits⟩
  | broke outside writing =>
      rw [writing] at suits
      exact ⟨place, custody, suits.1⟩
  | sent outside sending =>
      rw [sending] at suits
      exact ⟨place, custody, suits⟩
  | brokeCall outside sending =>
      rw [sending] at suits
      exact ⟨place, custody, suits.1.settled⟩
  | released adjusting =>
      rw [adjusting] at suits
      exact tended_releaseTicker custody suits.1 _
  | spared adjusting same active =>
      rw [adjusting] at suits
      have fresh := suits.2 same active
      exact ⟨place, custody, .inr (Whereabouts.fits_of_fresh active fresh)⟩
  | stopped awaiting gone =>
      rw [awaiting] at suits
      cases suits
      exact ⟨.stopped, custody.stop gone, rfl⟩
  | dropped draining =>
      rw [draining] at suits
      exact ⟨place, custody.untick, suits⟩
  | drained draining empty =>
      rw [draining] at suits
      cases suits
      exact ⟨.absent, custody.drain empty, AfterTicker.suits_phase _⟩
  | unchanged starting content =>
      rw [starting] at suits
      refine ⟨place, custody, ?_⟩
      rcases suits with absent | fits
      · -- Without a ticker it is the routing that asks for none.
        cases absent
        cases custody with
        | absent free gone empty =>
            rcases content with inactive | held
            · exact Whereabouts.fits_of_inactive inactive
            · exact absurd free held
      · exact fits
  | published publishing =>
      rw [publishing] at suits
      exact ⟨place, custody, suits, rfl⟩
  | passed passing next | finished outside passing empty =>
      rw [passing] at suits
      exact ⟨place, custody, suits⟩
  | expired passing empty leave =>
      rw [passing] at suits
      exact ⟨place, custody, suits.1.settled⟩
  | left leaving =>
      rw [leaving] at suits
      have told : Custody period { before with cancelled := true }.tickerView place :=
        custody.aside (Nat.le_refl _) fun _ => rfl
      exact tended_releaseTicker told suits _
  | stoppedReader outside stopping =>
      rw [stopping] at suits
      exact ⟨place, custody, suits⟩

/-- Every move leaves the ticker where the owner then needs it. -/
theorem Moves.tended (moves : Moves before notes after)
    (interval : before.gateway.routing.interval = period)
    (past : ∀ note ∈ journal, ∀ time ∈ note.activation?, time ≤ before.now)
    (custody : Custody period before.tickerView place)
    (suits : before.owner.Suits journal before.gateway before.status place) :
    ∃ next, Custody period after.tickerView next ∧
      after.owner.Suits (journal ++ notes) after.gateway after.status next := by
  by_cases silent : notes = []
  · subst silent
    rw [List.append_nil]
    exact moves.tended_of_silent custody suits
  cases moves with
  | tookFrame outside waiting | tookDeactivation outside waiting =>
      rw [waiting] at suits
      obtain ⟨fits, -⟩ := suits
      exact ⟨place, custody, fits.settled, fresh_of_exchange fits _⟩
  | tookTick waiting ticked =>
      rw [waiting] at suits
      obtain ⟨fits, -⟩ := suits
      exact ⟨place, custody.untick, fits.settled, fresh_of_exchange fits _⟩
  | started starting active free =>
      rw [starting] at suits
      have absent : place = .absent := by
        rcases suits with absent | fits
        · exact absent
        · have fresh := fits.fresh active
          cases custody with
          | held holds => exact absurd (holds.held.symm.trans free) (by simp)
          | absent | released | stopped => exact fresh.elim
      cases absent
      have next := custody.start before.starts
      rw [← interval] at next ⊢
      exact ⟨_, next, Whereabouts.fits_of_fresh active (LastTicker.concat past)⟩
  | forgot outside forgetting =>
      rw [forgetting] at suits
      exact ⟨place, custody, suits, rfl⟩
  | aside | begun | fired | quit | tookCall | tookEnd | wrote | wroteAll | sent | broke | brokeCall
  | released | spared | stopped | dropped | drained | unchanged | published | passed | finished
  | expired | left | stoppedReader => exact absurd rfl silent

@[simp] theorem now_releaseTicker (link : Link) (sequel : AfterTicker) :
    (link.releaseTicker sequel).now = link.now := by
  unfold releaseTicker
  split <;> rfl

/-- Time does not go back. -/
theorem Moves.now_le (moves : Moves before notes after) : before.now ≤ after.now := by
  cases moves with
  | aside outside later => exact later
  | released | left => simp
  | begun | fired | quit | tookFrame | tookTick | tookDeactivation | tookCall | tookEnd | wrote
  | wroteAll | sent | broke | brokeCall | spared | stopped | dropped | drained | started | unchanged
  | published | passed | finished | expired | stoppedReader | forgot => exact Nat.le_refl _

/-- An activation is noted when it takes place. -/
theorem Moves.activation_le (moves : Moves before notes after) :
    ∀ note ∈ notes, ∀ time ∈ note.activation?, time ≤ before.now := by
  intro note member time activated
  cases moves with
  | tookFrame =>
      rw [List.mem_singleton.mp member] at activated
      obtain ⟨-, same⟩ := Option.ite_none_right_eq_some.mp activated
      exact Nat.le_of_eq (Option.some.inj same).symm
  | tookTick | tookDeactivation | started | forgot =>
      rw [List.mem_singleton.mp member] at activated
      cases activated
  | aside | begun | fired | quit | released | left | tookCall | tookEnd | wrote | wroteAll | sent
  | broke | brokeCall | spared | stopped | dropped | drained | unchanged | published | passed
  | finished | expired | stoppedReader => cases member

end Link

/-! ## Runs -/

/-- The ticker is where the owner needs it, and no activation lies in the future. -/
structure Link.Upkeep (period : Nat) (journal : List LinkNote) (link : Link) : Prop where
  tended : ∃ place, Custody period link.tickerView place ∧
    link.owner.Suits journal link.gateway link.status place
  past : ∀ note ∈ journal, ∀ time ∈ note.activation?, time ≤ link.now

theorem Link.Reaches.upkeep {config : GatewayConfig} {journal : List LinkNote} {link : Link}
    (reached : Link.Reaches config journal link) :
    link.Upkeep config.aliveCheck.intervalMs.toNat journal := by
  induction reached with
  | start started =>
      obtain ⟨-, rfl⟩ := Gateway.start?_eq_ok_iff.mp started
      exact ⟨⟨.absent, .absent rfl rfl rfl, rfl, rfl⟩, nofun⟩
  | @step journal before after action reached acted inductionHypothesis =>
      obtain ⟨⟨place, custody, suits⟩, past⟩ := inductionHypothesis
      have moves := Link.moves_of_act acted
      refine ⟨moves.tended reached.gateway.interval past custody suits, ?_⟩
      intro note member time activated
      refine Nat.le_trans ?_ moves.now_le
      rcases List.mem_append.mp member with old | new
      · exact past note old time activated
      · exact moves.activation_le note new time activated

/-- The ticker and the status of a link follow the routing of its gateway. -/
structure Link.FollowsRouting (interval : Nat) (journal : List LinkNote) (link : Link) : Prop where
  /-- Whenever the owner waits, it holds a ticker just if routing is active. -/
  held : link.owner = .waiting →
    (link.held.isSome = true ↔ link.gateway.routing.isActive = true)
  /-- The ticker that it then holds is running, unless the link was asked to end. -/
  running : link.owner = .waiting → link.cancelled = false →
    link.tickers.map Ticker.number = link.held.toList
  /-- Whenever the owner waits, the published status tells how routing and the download stand. -/
  status : link.owner = .waiting →
    link.status.routing = link.gateway.routing.state ∧
      link.status.tester = link.gateway.routing.peer ∧
      link.status.download = link.gateway.download.state ∧
      link.status.transferred = link.gateway.download.transferred
  /-- There is never more than one ticker, whether or not it was told to stop. -/
  single : link.tickers.length ≤ 1
  /-- A ticker that was not told to stop is the one that the owner holds. -/
  kept : ∀ ticker ∈ link.tickers, ticker.cancelled = false → link.held = some ticker.number
  /-- A tick that the owner takes comes from a ticker that was started after the last activation.
  So routing is active, and at least an interval has passed since it was activated. -/
  taken : ∀ next, link.act? .takeTick = some next →
    link.gateway.routing.isActive = true ∧
      ∃ number since, link.tick = some number ∧ LastTicker journal number since ∧
        ∀ note ∈ journal, ∀ time ∈ note.activation?, time + interval ≤ link.now
  /-- When the owner is gone, no ticker and no tick remain, and the status tells of nothing. -/
  ended : ∀ outcome, link.outcome = some outcome →
    link.held = none ∧ link.tickers = [] ∧ link.tick = none ∧
      link.status = { routing := .idle, tester := none, download := .idle, transferred := 0 }

namespace Link.Upkeep

variable {period : Nat} {journal : List LinkNote} {link : Link}

/-- Where the ticker is when the owner waits. -/
theorem waiting (upkeep : link.Upkeep period journal) (waiting : link.owner = .waiting) :
    (link.gateway.routing.isActive = true ∧
        ∃ number since, LastTicker journal number since ∧
          link.tickerView.Holds period number since) ∨
      (link.gateway.routing.isActive = false ∧ link.held = none ∧ link.tickers = [] ∧
        link.tick = none) := by
  obtain ⟨place, custody, suits⟩ := upkeep.tended
  rw [waiting] at suits
  obtain ⟨fits, -⟩ := suits
  cases routed : link.gateway.routing.isActive with
  | true =>
      have fresh := fits.fresh routed
      cases custody with
      | held holds => exact .inl ⟨rfl, _, _, fresh, holds⟩
      | absent | released | stopped => exact fresh.elim
  | false =>
      rw [Whereabouts.Fits, routed] at fits
      cases fits
      cases custody with
      | absent free gone empty => exact .inr ⟨rfl, free, gone, empty⟩

end Link.Upkeep

theorem Link.tick_of_takeTick {link next : Link} (acted : link.act? .takeTick = some next) :
    link.owner = .waiting ∧ ∃ number, link.tick = some number := by
  unfold act? at acted
  dsimp only at acted
  split at acted
  · rename_i waiting
    unfold takeTick? at acted
    split at acted
    · rename_i number ticked
      exact ⟨eq_waiting_of_isWaiting waiting, number, ticked⟩
    · cases acted
  · cases acted

/-- In every run of a link, whatever order its activities take their turns in and whenever writing
fails, the ticker and the status follow the routing of the gateway. -/
theorem ticker_follows_routing {config : GatewayConfig} {journal : List LinkNote} {link : Link}
    (reached : Link.Reaches config journal link) :
    link.FollowsRouting config.aliveCheck.intervalMs.toNat journal := by
  have upkeep := reached.upkeep
  obtain ⟨place, custody, suits⟩ := upkeep.tended
  constructor
  · intro waiting
    rcases upkeep.waiting waiting with ⟨active, number, since, -, holds⟩ | ⟨inactive, free, -⟩
    · have held : link.held = some number := holds.held
      simp [active, held]
    · simp [inactive, free]
  · intro waiting going
    rcases upkeep.waiting waiting with ⟨-, number, since, -, holds⟩ | ⟨-, free, gone, -⟩
    · have held : link.held = some number := holds.held
      have runs : link.tickers ≠ [] := holds.running.resolve_left (by simp [Link.tickerView, going])
      obtain ⟨ticker, only⟩ : ∃ ticker, link.tickers = [ticker] :=
        List.length_eq_one_iff.mp
          (Nat.le_antisymm holds.single (List.length_pos_iff.mpr runs))
      have own := (holds.only ticker (by simp [Link.tickerView, only])).own
      simp [held, only, own]
    · simp [free, gone]
  · intro waiting
    rw [waiting] at suits
    obtain ⟨-, published⟩ := suits
    rw [published]
    exact ⟨rfl, rfl, rfl, rfl⟩
  · exact custody.single
  · intro ticker member kept
    exact custody.held_of_mem member kept
  · intro next acted
    obtain ⟨waiting, origin, ticked⟩ := Link.tick_of_takeTick acted
    rcases upkeep.waiting waiting with ⟨active, number, since, last, holds⟩ | ⟨-, -, -, empty⟩
    · obtain ⟨rfl, reached⟩ := holds.ticked origin ticked
      refine ⟨active, origin, since, ticked, last, ?_⟩
      intro note member time activated
      exact Nat.le_trans (Nat.add_le_add_right (last.bound note member time activated) _) reached
    · exact absurd (empty.symm.trans ticked) (by simp)
  · intro outcome concluded
    rw [Link.owner_of_outcome concluded] at suits
    obtain ⟨rfl, cleared⟩ := suits
    cases custody with
    | absent free gone empty => exact ⟨free, gone, empty, cleared⟩

/-- The tester fills a download, and a tick waits when the interval has passed. -/
def sampleFilledTicking : List LinkAction :=
  sampleFilling ++ [.beginTicking 0, .wait 5000, .fire 0]

/-- The status that was published tells of the tester and of the four bytes that it sent. -/
theorem ticker_follows_routing_sample :
    ∃ journal link next, Link.Reaches {} journal link ∧ link.owner = .waiting ∧
      link.status =
        { routing := .active, tester := some 0x0E00, download := .awaitingExit, transferred := 4 } ∧
      link.act? .takeTick = some next ∧ link.FollowsRouting 5000 journal := by
  have played : ((Link.ofGateway (.ofConfig {})).play? sampleFilledTicking).any
      (fun run => (run.2.act? .takeTick).isSome &&
        decide (run.2.status =
          { routing := .active
            tester := some 0x0E00
            download := .awaitingExit
            transferred := 4 })) = true := by
    decide
  obtain ⟨⟨journal, link⟩, played, seen⟩ := (Option.any_eq_true _ _).mp played
  obtain ⟨taken, status⟩ := Bool.and_eq_true_iff.mp seen
  obtain ⟨next, acted⟩ := Option.isSome_iff_exists.mp taken
  have reached : Link.Reaches {} journal link :=
    Link.reaches_iff_play.mpr ⟨_, sampleFilledTicking, rfl, played⟩
  obtain ⟨waiting, -⟩ := Link.tick_of_takeTick acted
  exact ⟨journal, link, next, reached, waiting, of_decide_eq_true status, acted,
    ticker_follows_routing reached⟩

end DiagnosticGateway
