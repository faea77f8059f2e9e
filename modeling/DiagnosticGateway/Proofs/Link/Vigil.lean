/-
Module: DiagnosticGateway.Proofs.Link.Vigil
Purpose: Why a link ends over an alive check: what the owner has taken counts, what waits does not.
Main exports:
  LinkStep.Asks, LinkStep.Expires, Unheeded, LinkStep.Effect, Link.effect_of_act, Link.Vigil,
  Link.EndsUnheeded, expiry_decided_by_frames_taken, answered_check_expires
-/
import DiagnosticGateway.Proofs.Link.Desk
import DiagnosticGateway.Proofs.Link.Intake
import DiagnosticGateway.Proofs.Link.Upkeep
import DiagnosticGateway.Proofs.Routing.Schedule

/-!
An alive check is pending from the tick that has sent it until the gateway is given a frame.  A frame
that has come and waits for the owner is not given yet.  So when the owner was held up, and a frame
and a tick both wait for it, the session expires or goes on as the owner takes the tick or the frame
first.  `LinkStep.Effect` lists what a step does to the session, and `Link.Vigil` is what each step
keeps.
-/

namespace DiagnosticGateway

/-! ## What is read from a run -/

namespace LinkStep

/-- What the gateway answers if a tick is taken now. -/
def polled (step : LinkStep) : GatewayOutput := (step.link.gateway.step (.poll step.link.now)).1

/-- The owner takes a tick, and an alive check is sent. -/
def Asks (step : LinkStep) : Prop := step.action = .takeTick ∧ step.polled.frames ≠ []

/-- The owner takes a tick, and the session expires. -/
def Expires (step : LinkStep) : Prop :=
  step.action = .takeTick ∧ step.polled.events.any GatewayEvent.isExpiry = true

end LinkStep

/-- An alive check was sent long enough ago, and the gateway was given no frame since. -/
inductive Unheeded (timeout : Option Nat) (steps : List LinkStep) (now : Time) : Prop where
  | intro {earlier since : List LinkStep} {ask : LinkStep} {limit : Nat}
      (split : steps = earlier ++ ask :: since) (asks : ask.Asks) (unheard : handled since = [])
      (configured : timeout = some limit) (waited : ask.link.now + limit ≤ now)

theorem handled_append (earlier later : List LinkStep) :
    handled (earlier ++ later) = handled earlier ++ handled later := by
  simp [handled, journal]

theorem handled_singleton (step : LinkStep) :
    handled [step] = (step.link.notes step.action).filterMap LinkNote.frame? :=
  handled_concat [] step

/-- Checks are sent by ticks alone. -/
theorem LinkStep.not_asks {step : LinkStep} (other : step.action ≠ .takeTick) : ¬step.Asks :=
  fun asks => other asks.1

/-- A tick brings no frame. -/
theorem LinkStep.Asks.unheard {step : LinkStep} (asks : step.Asks) : handled [step] = [] := by
  rw [handled_singleton, asks.1]
  rfl

/-! ## What a tick does -/

namespace Gateway

variable (gateway : Gateway) (now : Time)

/-- A frame is sent just if a check is, and an expiry is reported just if there is one. -/
theorem poll_output :
    ((gateway.step (.poll now)).1.frames ≠ [] ↔
        ∃ request, (gateway.routing.poll now).1 = .send request) ∧
      ((gateway.step (.poll now)).1.events.any GatewayEvent.isExpiry = true ↔
        (gateway.routing.poll now).1 = .expired) := by
  rw [step, pollAliveCheck]
  obtain ⟨check, routing⟩ := gateway.routing.poll now
  cases check with
  | notDue => simp [GatewayOutput.none]
  | send request => simp [GatewayOutput.ofFrame]
  | expired => simp [GatewayEvent.isExpiry]

end Gateway

/-! ## What a step does to the session -/

/-- Everything that a step can do to the session, which is `next` afterwards. -/
inductive LinkStep.Effect (step : LinkStep) (next : Routing) : Prop where
  /-- The session stays as it is. -/
  | kept (unheard : handled [step] = []) (unasked : ¬step.Asks)
      (same : next = step.link.gateway.routing)
  /-- An alive check is sent.  It is pending, unless an older one already is. -/
  | asked (unheard : handled [step] = []) (asks : step.Asks)
      (active : step.link.gateway.routing.isActive = true)
      (pending : next.pendingSince =
        some (step.link.gateway.routing.pendingSince.getD step.link.now))
  /-- The gateway is given a frame, and no check is pending any more. -/
  | heard (heard : handled [step] ≠ []) (unasked : ¬step.Asks)
      (answered : next.isActive = true → next.pendingSince = none)
  /-- The session is left. -/
  | left (unheard : handled [step] = []) (unasked : ¬step.Asks) (inactive : next.isActive = false)

/-- A frame shows that the peer is there. -/
theorem Gateway.pendingSince_frame (gateway : Gateway) (frame : Frame) (now : Time)
    (active : (gateway.step (.frame frame now)).2.routing.isActive = true) :
    (gateway.step (.frame frame now)).2.routing.pendingSince = none := by
  have noted := gateway.isActive_noteActivity now
  rcases (gateway.frameEffect_handleFrame frame now).routing with kept | touched | activated
  · rw [step, kept] at active ⊢
    rw [noteActivity_of_active (noted.symm.trans active)]
    rfl
  · rw [step, touched]
    rfl
  · obtain ⟨request, activated, -⟩ := activated
    rw [step, activated]
    rfl

namespace Link

variable {before after : Link} {action : LinkAction}

/-- Without a note the gateway is left alone. -/
theorem effect_of_unnoted (unnoted : before.notes action = []) (other : action ≠ .takeTick)
    (acted : before.act? action = some after) :
    LinkStep.Effect { link := before, action := action } after.gateway.routing := by
  refine .kept (by rw [handled_singleton, unnoted]; rfl) (LinkStep.not_asks other) ?_
  rcases (moves_of_act acted).gateway with ⟨-, same⟩ | ⟨input, noted, -⟩
  · rw [same]
  · rw [unnoted] at noted
    cases noted

theorem effect_of_takeFrame (acted : before.act? .takeFrame = some after) :
    LinkStep.Effect { link := before, action := .takeFrame } after.gateway.routing := by
  have unasked : ¬LinkStep.Asks { link := before, action := .takeFrame } :=
    LinkStep.not_asks (by simp)
  obtain ⟨-, taken⟩ := waiting_of_taken acted
  cases queued : before.reader.queue with
  | nil => exact effect_of_unnoted (by simp only [notes, queued]) (by simp) acted
  | cons head queue =>
      cases head with
      | error fault => exact effect_of_unnoted (by simp only [notes, queued]) (by simp) acted
      | ok frame =>
          have heard : handled [{ link := before, action := .takeFrame }] = [frame] := by
            rw [handled_singleton]
            simp only [notes, queued]
            rfl
          simp only [takeFrame?, queued] at taken
          cases taken
          exact .heard (by simp [heard]) unasked
            (before.gateway.pendingSince_frame frame before.now)

theorem effect_of_takeTick (acted : before.act? .takeTick = some after) :
    LinkStep.Effect { link := before, action := .takeTick } after.gateway.routing := by
  have unheard : handled [{ link := before, action := .takeTick }] = [] := rfl
  have asks : LinkStep.Asks { link := before, action := .takeTick } ↔
      ∃ request, (before.gateway.routing.poll before.now).1 = .send request := by
    rw [← (before.gateway.poll_output before.now).1]
    exact and_iff_right rfl
  obtain ⟨-, taken⟩ := waiting_of_taken acted
  have polled : after.gateway.routing = (before.gateway.routing.poll before.now).2 := by
    unfold takeTick? at taken
    split at taken
    · cases taken
      exact before.gateway.routing_pollAliveCheck before.now
    · cases taken
  have outcome := before.gateway.routing.pollOutcome_poll before.now
  rw [polled]
  generalize before.gateway.routing.poll before.now = poll at asks outcome ⊢
  cases outcome with
  | notDue => exact .kept unheard (by simp [asks]) rfl
  | sent active => exact .asked unheard (by simp [asks]) active rfl
  | expired => exact .left unheard (by simp [asks]) (Routing.isActive_deactivate _)

theorem effect_of_takeCommand (acted : before.act? .takeCommand = some after) :
    LinkStep.Effect { link := before, action := .takeCommand } after.gateway.routing := by
  have unasked : ¬LinkStep.Asks { link := before, action := .takeCommand } :=
    LinkStep.not_asks (by simp)
  obtain ⟨-, taken⟩ := waiting_of_taken acted
  cases queued : before.commands with
  | nil => exact effect_of_unnoted (by simp only [notes, queued]) (by simp) acted
  | cons head commands =>
      obtain ⟨call, command⟩ := head
      cases command with
      | sendDiagnostic target userData =>
          exact effect_of_unnoted (by simp only [notes, queued]) (by simp) acted
      | deactivate =>
          have unheard : handled [{ link := before, action := .takeCommand }] = [] := by
            rw [handled_singleton]
            simp only [notes, queued]
            rfl
          simp only [takeCommand?, queued] at taken
          cases taken
          refine .left unheard unasked ?_
          rw [Gateway.routing_deactivate]
          exact Routing.isActive_deactivate _

/-- While the owner goes on with what it has in hand, the gateway is left alone or forgotten. -/
theorem effect_of_proceed (acted : before.act? .proceed = some after) :
    LinkStep.Effect { link := before, action := .proceed } after.gateway.routing := by
  have unasked : ¬LinkStep.Asks { link := before, action := .proceed } :=
    LinkStep.not_asks (by simp)
  have unheard : handled [{ link := before, action := .proceed }] = [] := by
    rw [handled_singleton]
    exact frames_notes_proceed before
  rcases (moves_of_act acted).gateway with ⟨-, same⟩ | ⟨input, noted, stepped⟩
  · exact .kept unheard unasked (congrArg Gateway.routing same)
  · have forgets : input = .reset := by
      simp only [notes] at noted
      split at noted
      · split at noted <;> cases noted
      · exact (congrArg Exchange.input (List.singleton_inj.mp noted)).symm
      · cases noted
    rw [stepped, forgets]
    exact .left unheard unasked rfl

theorem effect_of_act (acted : before.act? action = some after) :
    LinkStep.Effect { link := before, action := action } after.gateway.routing := by
  cases action with
  | takeFrame => exact effect_of_takeFrame acted
  | takeTick => exact effect_of_takeTick acted
  | takeCommand => exact effect_of_takeCommand acted
  | proceed => exact effect_of_proceed acted
  | receive | endInput | limitRoom | breakFlush | wait | read | quitReading | beginTicking | fire
  | quitTicking | call | cancel | takeCancel => exact effect_of_unnoted rfl (by simp) acted

end Link

/-! ## What each step keeps -/

/-- A check is pending in an active session just if one was sent and the gateway was given no frame
since, and it is the first such check that is pending. -/
structure Link.Vigil (steps : List LinkStep) (link : Link) : Prop where
  /-- No step was taken later than now. -/
  past : ∀ step ∈ steps, step.link.now ≤ link.now
  sent : link.gateway.routing.isActive = true →
    ∀ time, link.gateway.routing.pendingSince = some time →
      ∃ earlier ask since, steps = earlier ++ ask :: since ∧ ask.Asks ∧ handled since = [] ∧
        ask.link.now = time
  pending : link.gateway.routing.isActive = true →
    ∀ earlier ask since, steps = earlier ++ ask :: since → ask.Asks → handled since = [] →
      ∃ time, link.gateway.routing.pendingSince = some time ∧ time ≤ ask.link.now

namespace Link

variable {config : GatewayConfig} {steps : List LinkStep} {before after link : Link}
  {action : LinkAction}

/-- A check that was sent before the last step is still heard of afterwards. -/
theorem Vigil.sent_concat {step : LinkStep} (vigil : step.link.Vigil steps)
    (active : step.link.gateway.routing.isActive = true) (unheard : handled [step] = []) {time : Time}
    (pending : step.link.gateway.routing.pendingSince = some time) :
    ∃ earlier ask since, steps ++ [step] = earlier ++ ask :: since ∧ ask.Asks ∧
      handled since = [] ∧ ask.link.now = time := by
  obtain ⟨earlier, ask, since, rfl, asks, silent, same⟩ := vigil.sent active time pending
  refine ⟨earlier, ask, since ++ [step], by simp, asks, ?_, same⟩
  rw [handled_append, silent, unheard, List.append_nil]

theorem Vigil.sent_act (vigil : before.Vigil steps) (acted : before.act? action = some after)
    (active : after.gateway.routing.isActive = true) {time : Time}
    (pending : after.gateway.routing.pendingSince = some time) :
    ∃ earlier ask since, steps ++ [{ link := before, action := action }] = earlier ++ ask :: since ∧
      ask.Asks ∧ handled since = [] ∧ ask.link.now = time := by
  cases effect_of_act acted with
  | kept unheard unasked same =>
      rw [same] at active pending
      exact vigil.sent_concat active unheard pending
  | asked unheard asks wasActive sent =>
      cases older : before.gateway.routing.pendingSince with
      | none =>
          rw [older] at sent
          obtain rfl : before.now = time := Option.some.inj (sent.symm.trans pending)
          exact ⟨steps, _, [], rfl, asks, rfl, rfl⟩
      | some first =>
          rw [older] at sent
          obtain rfl : first = time := Option.some.inj (sent.symm.trans pending)
          exact vigil.sent_concat wasActive unheard older
  | heard heard unasked answered =>
      rw [answered active] at pending
      cases pending
  | left unheard unasked inactive =>
      exact absurd (inactive.symm.trans active) Bool.false_ne_true

theorem Vigil.pending_act (vigil : before.Vigil steps) (acted : before.act? action = some after)
    (active : after.gateway.routing.isActive = true) {earlier since : List LinkStep} {ask : LinkStep}
    (split : steps ++ [{ link := before, action := action }] = earlier ++ ask :: since)
    (asks : ask.Asks) (silent : handled since = []) :
    ∃ time, after.gateway.routing.pendingSince = some time ∧ time ≤ ask.link.now := by
  -- The check was sent by the last step, or it was sent before and the last step brought no frame.
  rcases of_concat_eq_append_cons split with ⟨rfl, rfl, rfl⟩ | ⟨between, rfl, rfl⟩
  · cases effect_of_act acted with
    | asked unheard _ wasActive sent =>
        refine ⟨_, sent, ?_⟩
        cases older : before.gateway.routing.pendingSince with
        | none => exact Nat.le_refl _
        | some first =>
            obtain ⟨front, old, back, rfl, -, -, rfl⟩ := vigil.sent wasActive first older
            exact vigil.past old (by simp)
    | kept _ unasked | heard _ unasked | left _ unasked => exact absurd asks unasked
  · rw [handled_append, List.append_eq_nil_iff] at silent
    obtain ⟨silent, unheard⟩ := silent
    cases effect_of_act acted with
    | kept _ _ same =>
        rw [same] at active ⊢
        exact vigil.pending active earlier ask between rfl asks silent
    | asked _ _ wasActive sent =>
        obtain ⟨first, older, before⟩ := vigil.pending wasActive earlier ask between rfl asks silent
        rw [older] at sent
        exact ⟨first, sent, before⟩
    | heard heard => exact absurd unheard heard
    | left _ _ inactive => exact absurd (inactive.symm.trans active) Bool.false_ne_true

theorem Runs.vigil (ran : Runs config steps link) : link.Vigil steps := by
  induction ran with
  | start started =>
      obtain ⟨-, rfl⟩ := Gateway.start?_eq_ok_iff.mp started
      have inactive : (ofGateway (.ofConfig config)).gateway.routing.isActive = false := rfl
      exact ⟨by simp, fun active => absurd (inactive.symm.trans active) Bool.false_ne_true,
        fun active => absurd (inactive.symm.trans active) Bool.false_ne_true⟩
  | @step steps before after action ran acted vigil =>
      have onward := (moves_of_act acted).now_le
      refine ⟨?_, fun active time => vigil.sent_act acted active,
        fun active earlier ask since split => vigil.pending_act acted active split⟩
      intro step member
      rcases List.mem_append.mp member with old | new
      · exact Nat.le_trans (vigil.past step old) onward
      · rw [List.mem_singleton.mp new]
        exact onward

end Link

/-! ## What waits -/

/-- While the gateway is given no frame and the link does not end, what waits in the queue stays. -/
theorem LinkIntake.Step.queue_prefix {before after : LinkIntake} {incoming : Incoming}
    (step : before.Step incoming [] after) (going : after.ending = none) :
    before.ending = none ∧ before.reader.queue <+: after.reader.queue := by
  cases step with
  | aside | received | cancelled | closed | exhausted | quit =>
      exact ⟨going, List.prefix_refl _⟩
  | found | refused => exact ⟨going, List.prefix_append _ _⟩
  | tookFault | tookEnd | tookCancel | broke => cases going
  | dropped leaving => exact absurd going leaving

namespace Link

variable {config : GatewayConfig} {steps : List LinkStep} {before after link : Link}
  {action : LinkAction}

/-- Since the gateway was last given a frame, what waited in the queue still waits. -/
theorem Runs.queue_prefix (ran : Runs config steps link) (going : link.owner.ending? = none)
    {earlier since : List LinkStep} (split : steps = earlier ++ since)
    (unheard : handled since = []) :
    ∀ step ∈ since, step.link.reader.queue <+: link.reader.queue := by
  induction ran generalizing since with
  | start started =>
      obtain ⟨-, rfl⟩ := List.append_eq_nil_iff.mp split.symm
      exact List.forall_mem_nil _
  | @step steps before after action ran acted inductionHypothesis =>
      rcases since.eq_nil_or_concat with rfl | ⟨between, last, rfl⟩
      · exact List.forall_mem_nil _
      · rw [List.concat_eq_append] at unheard ⊢
        rw [List.concat_eq_append, ← List.append_assoc] at split
        obtain ⟨front, same⟩ := List.append_inj' split rfl
        obtain rfl := List.singleton_inj.mp same
        rw [handled_append, List.append_eq_nil_iff, handled_singleton] at unheard
        obtain ⟨unheard, lastUnheard⟩ := unheard
        have stepped := intakeStep_of_act (fun outcome => ran.leave_eq) acted
        rw [lastUnheard] at stepped
        obtain ⟨goes, kept⟩ := stepped.queue_prefix going
        intro step member
        rcases List.mem_append.mp member with old | new
        · exact (inductionHypothesis goes front unheard step old).trans kept
        · rw [List.mem_singleton.mp new]
          exact kept

/-! ## How a link comes to end over an alive check -/

/-- Only a tick makes the gateway follow the alive-check schedule. -/
theorem takeTick_of_notes {now : Time}
    (noted : before.notes action = [.exchanged (before.gateway.exchange (.poll now))]) :
    action = .takeTick := by
  cases action with
  | takeTick => rfl
  | takeFrame =>
      simp only [notes] at noted
      split at noted <;> simp [Gateway.exchange] at noted
  | takeCommand =>
      simp only [notes] at noted
      split at noted <;> simp [Gateway.exchange] at noted
  | proceed =>
      simp only [notes] at noted
      split at noted
      · split at noted <;> cases noted
      · cases noted
      · cases noted
  | receive | endInput | limitRoom | breakFlush | wait | read | quitReading | beginTicking | fire
  | quitTicking | call | cancel | takeCancel => cases noted

/-- A link that ends when an output is delivered ends over an expiry. -/
theorem expires_of_leave {outcome : Except LinkFault Unit}
    (acted : before.act? action = some after)
    (leaves : after.owner.sequel? = some (.leave outcome)) :
    before.owner.sequel? = some (.leave outcome) ∨
      LinkStep.Expires { link := before, action := action } := by
  rcases (moves_of_act acted).leave_cases leaves with earlier | ⟨-, noted, expiry⟩
  · exact .inl earlier
  · exact .inr ⟨takeTick_of_notes noted, expiry⟩

/-- Nothing that the owner takes ends the link over an alive check at once. -/
theorem ending_ne_timeout_of_waiting (waiting : before.owner = .waiting)
    (acted : before.act? action = some after) :
    after.owner.ending? ≠ some (.error .aliveCheckTimeout) := by
  cases action with
  | receive | endInput | limitRoom | breakFlush | wait | cancel | read | quitReading | beginTicking
  | fire | quitTicking =>
      rw [(aside_of_act rfl acted).1, waiting]
      exact (Option.some_ne_none _).symm
  | call command =>
      unfold act? call? at acted
      dsimp only at acted
      split at acted
      · split at acted <;> cases acted
        simp [waiting, OwnerPhase.ending?]
      · cases acted
        simp [reply, waiting, OwnerPhase.ending?]
  | takeFrame =>
      obtain ⟨-, taken⟩ := waiting_of_taken acted
      unfold takeFrame? at taken
      split at taken
      · cases taken
        simp [OwnerPhase.ending?]
      · cases taken
        simp [OwnerPhase.ending?]
      · split at taken <;> cases taken
        simp [OwnerPhase.ending?]
  | takeTick =>
      obtain ⟨-, taken⟩ := waiting_of_taken acted
      unfold takeTick? at taken
      split at taken <;> cases taken
      simp [OwnerPhase.ending?]
  | takeCommand =>
      obtain ⟨-, taken⟩ := waiting_of_taken acted
      unfold takeCommand? at taken
      split at taken
      · dsimp only at taken
        split at taken <;> cases taken
        · simp [OwnerPhase.ending?]
        · simp [reply, waiting, OwnerPhase.ending?]
      · cases taken
        simp [OwnerPhase.ending?]
      · cases taken
  | takeCancel =>
      obtain ⟨-, taken⟩ := waiting_of_taken acted
      unfold takeCancel? at taken
      split at taken <;> cases taken
      simp [OwnerPhase.ending?]
  | proceed =>
      unfold act? proceed? at acted
      rw [waiting] at acted
      cases acted

/-- A link ends over an alive check when the output of an expiry is delivered. -/
theorem Moves.timeout_cases {notes : List LinkNote} (moves : Moves before notes after)
    (busy : before.owner ≠ .waiting)
    (ending : after.owner.ending? = some (.error .aliveCheckTimeout)) :
    before.owner.ending? = some (.error .aliveCheckTimeout) ∨
      before.owner.sequel? = some (.leave (.error .aliveCheckTimeout)) := by
  cases moves with
  | aside | begun | fired | quit => exact .inl ending
  | tookFrame _ waiting | tookTick waiting | tookDeactivation _ waiting | tookCall _ waiting
  | tookEnd _ waiting => exact absurd waiting busy
  | wrote | wroteAll | sent | spared | started | unchanged | published | passed | finished | broke
  | brokeCall => cases ending
  | released =>
      rw [ending?_releaseTicker] at ending
      cases ending
  | stopped owner | dropped owner | stoppedReader _ owner | forgot _ owner =>
      rw [owner]
      exact .inl ending
  | drained draining =>
      rw [AfterTicker.ending?_phase] at ending
      rw [draining]
      exact .inl ending
  | expired passing _ leave =>
      obtain rfl := Option.some.inj ending
      rw [passing]
      exact .inr (congrArg some leave)
  | left leaving =>
      rw [ending?_releaseTicker] at ending
      rw [leaving]
      exact .inl ending

/-- When a link ends over an alive check, a tick was taken and the session has expired. -/
theorem Runs.exists_expires (ran : Runs config steps link)
    (ending : link.owner.ending? = some (.error .aliveCheckTimeout) ∨
      link.owner.sequel? = some (.leave (.error .aliveCheckTimeout))) :
    ∃ step ∈ steps, step.Expires := by
  induction ran with
  | start started =>
      exact absurd ending (by simp [ofGateway, OwnerPhase.ending?, OwnerPhase.sequel?])
  | @step steps before after action ran acted inductionHypothesis =>
      have earlier : (before.owner.ending? = some (.error .aliveCheckTimeout) ∨
          before.owner.sequel? = some (.leave (.error .aliveCheckTimeout))) ∨
            LinkStep.Expires { link := before, action := action } := by
        rcases ending with ending | leaves
        · have busy : before.owner ≠ .waiting := fun waiting =>
            ending_ne_timeout_of_waiting waiting acted ending
          exact .inl ((moves_of_act acted).timeout_cases busy ending)
        · exact (expires_of_leave acted leaves).imp_left .inr
      rcases earlier with ending | expires
      · obtain ⟨step, member, expires⟩ := inductionHypothesis ending
        exact ⟨step, List.mem_append_left _ member, expires⟩
      · exact ⟨_, List.mem_append_right _ (List.mem_singleton_self _), expires⟩

/-! ## Ticks that are taken -/

/-- The owner means to end the link just if the session has expired. -/
theorem leaves_iff_expires (taken : before.act? .takeTick = some after) :
    after.owner.sequel? = some (.leave (.error .aliveCheckTimeout)) ↔
      LinkStep.Expires { link := before, action := .takeTick } := by
  have sequel : after.owner.sequel? =
      some
        (if (LinkStep.polled { link := before, action := .takeTick }).events.any
            GatewayEvent.isExpiry then
          .leave (.error .aliveCheckTimeout)
        else .wait) := by
    obtain ⟨-, taken⟩ := waiting_of_taken taken
    unfold takeTick? at taken
    split at taken
    · cases taken
      rfl
    · cases taken
  rw [sequel, LinkStep.Expires, and_iff_right rfl, Option.some.injEq]
  cases (LinkStep.polled { link := before, action := .takeTick }).events.any
    GatewayEvent.isExpiry with
  | true => simp
  | false => simp

/-- A tick finds the session expired just if a check is due and one is unheeded. -/
theorem Runs.expires_iff (ran : Runs config steps link)
    (taken : link.act? .takeTick = some after) :
    LinkStep.Expires { link := link, action := .takeTick } ↔
      (∃ due, link.gateway.routing.nextCheck = some due ∧ due ≤ link.now) ∧
        Unheeded config.aliveCheck.timeout steps link.now := by
  have vigil := ran.vigil
  have active := ((ticker_follows_routing ran.reaches).taken after taken).1
  rw [LinkStep.Expires, and_iff_right rfl, LinkStep.polled,
    (link.gateway.poll_output link.now).2, Routing.poll_eq_expired_iff, Routing.poll_ne_notDue_iff,
    and_iff_right active, Routing.overdue_iff, ran.reaches.gateway.timeout]
  refine and_congr_right fun _ => ⟨?_, ?_⟩
  · rintro ⟨sent, limit, pending, configured, waited⟩
    obtain ⟨earlier, ask, since, split, asks, unheard, rfl⟩ := vigil.sent active sent pending
    have past := vigil.past ask (by simp [split])
    exact .intro split asks unheard configured (Nat.add_le_of_le_sub' past waited)
  · rintro ⟨split, asks, unheard, configured, waited⟩
    obtain ⟨sent, pending, first⟩ := vigil.pending active _ _ _ split asks unheard
    exact ⟨sent, _, pending, configured,
      Nat.le_sub_of_add_le' (Nat.le_trans (Nat.add_le_add_right first _) waited)⟩

/-- When a link ends over an alive check, a tick was taken when one was unheeded. -/
theorem Runs.exists_unheeded (ran : Runs config steps link)
    (fault : link.fault? = some .aliveCheckTimeout) :
    ∃ earlier tick later next, steps = earlier ++ tick :: later ∧ tick.Expires ∧
      Runs config earlier tick.link ∧ tick.link.act? .takeTick = some next ∧
        Unheeded config.aliveCheck.timeout earlier tick.link.now := by
  have ending := ending?_of_outcome (fault?_eq_some_iff.mp fault)
  obtain ⟨tick, member, expires⟩ := ran.exists_expires (.inl ending)
  obtain ⟨earlier, later, split⟩ := List.append_of_mem member
  obtain ⟨ranEarlier, next, acted⟩ := ran.of_append_cons split
  rw [expires.1] at acted
  have unheeded := ((ranEarlier.expires_iff acted).mp ⟨rfl, expires.2⟩).2
  exact ⟨earlier, tick, later, next, split, expires, ranEarlier, acted, unheeded⟩

end Link

/-- A frame that the gateway was given is the answer to all checks before it. -/
theorem not_unheeded_of_heard {timeout : Option Nat} {earlier since : List LinkStep}
    {heard : LinkStep} {now : Time} (given : handled [heard] ≠ [])
    (unasked : ∀ step ∈ since, ¬step.Asks) :
    ¬Unheeded timeout (earlier ++ heard :: since) now := by
  rintro ⟨split, asks, unheard, -, -⟩
  rcases List.append_eq_append_iff.mp split with ⟨between, -, back⟩ | ⟨between, -, back⟩
  · cases between with
    | nil =>
        obtain ⟨rfl, -⟩ := List.cons.inj back
        exact given asks.unheard
    | cons _ between =>
        obtain ⟨-, rfl⟩ := List.cons.inj back
        exact unasked _ (by simp) asks
  · cases between with
    | nil =>
        obtain ⟨rfl, -⟩ := List.cons.inj back
        exact given asks.unheard
    | cons _ between =>
        rw [List.cons_append] at back
        obtain ⟨-, rfl⟩ := List.cons.inj back
        rw [handled_append, ← List.singleton_append, handled_append] at unheard
        simp only [List.append_eq_nil_iff] at unheard
        exact given unheard.2.1

/-- Why a link ends over an alive check. -/
structure Link.EndsUnheeded (timeout : Option Nat) (steps : List LinkStep) (link : Link) : Prop where
  /-- A tick that the owner takes makes the link end just if a check is due and one that was sent is
  unheeded for the timeout.  What waits in the queue has no part in this. -/
  decided : ∀ next, link.act? .takeTick = some next →
    (next.owner.sequel? = some (.leave (.error .aliveCheckTimeout)) ↔
      (∃ due, link.gateway.routing.nextCheck = some due ∧ due ≤ link.now) ∧
        Unheeded timeout steps link.now)
  /-- After the owner has taken a frame no tick makes the link end until another check was sent. -/
  answered : ∀ earlier heard since next, steps = earlier ++ heard :: since → handled [heard] ≠ [] →
    (∀ step ∈ since, ¬step.Asks) → link.act? .takeTick = some next →
      next.owner.sequel? ≠ some (.leave (.error .aliveCheckTimeout))
  /-- When a tick is taken, all that has waited since the owner took its last frame still waits. -/
  kept : ∀ earlier since next, steps = earlier ++ since → handled since = [] →
    link.act? .takeTick = some next → ∀ step ∈ since, step.link.reader.queue <+: link.reader.queue
  /-- A link that has ended over an alive check has taken a tick when one was unheeded. -/
  ended : link.fault? = some .aliveCheckTimeout →
    ∃ earlier tick later, steps = earlier ++ tick :: later ∧ tick.Expires ∧
      Unheeded timeout earlier tick.link.now
  /-- If the owner takes a tick only when no frame waits, no frame was found after the check either. -/
  patient : (∀ step ∈ steps, step.action = .takeTick → step.link.reader.queue = []) →
    link.fault? = some .aliveCheckTimeout →
      ∃ earlier ask since tick later, steps = earlier ++ ask :: (since ++ tick :: later) ∧
        ask.Asks ∧ tick.Expires ∧ ∀ step ∈ since, step.link.reader.queue = []

/-- In every run of a link, whatever order its activities take their turns in and however long the
owner is held up, an alive check counts as answered once the owner has taken a frame, and not before.
-/
theorem expiry_decided_by_frames_taken {config : GatewayConfig} {steps : List LinkStep} {link : Link}
    (ran : Link.Runs config steps link) :
    link.EndsUnheeded config.aliveCheck.timeout steps := by
  constructor
  case decided =>
    intro next taken
    rw [Link.leaves_iff_expires taken, ran.expires_iff taken]
  case answered =>
    rintro earlier heard since next rfl given unasked taken leaves
    have expires := (Link.leaves_iff_expires taken).mp leaves
    exact not_unheeded_of_heard given unasked ((ran.expires_iff taken).mp expires).2
  case kept =>
    intro earlier since next split unheard taken
    obtain ⟨waiting, -⟩ := Link.waiting_of_taken taken
    exact ran.queue_prefix (by rw [waiting]; rfl) split unheard
  case ended =>
    intro fault
    obtain ⟨earlier, tick, later, -, split, expires, -, -, unheeded⟩ := ran.exists_unheeded fault
    exact ⟨earlier, tick, later, split, expires, unheeded⟩
  case patient =>
    intro patient fault
    obtain ⟨earlier, tick, later, next, split, expires, ranEarlier, acted, unheeded⟩ :=
      ran.exists_unheeded fault
    obtain ⟨waiting, -⟩ := Link.waiting_of_taken acted
    have empty := patient tick (by simp [split]) expires.1
    cases unheeded with
    | @intro front since ask _ splitEarlier asks unheard =>
        refine ⟨front, ask, since, tick, later, by simp [split, splitEarlier], asks, expires, ?_⟩
        have kept := ranEarlier.queue_prefix (by rw [waiting]; rfl)
          (splitEarlier.trans (List.append_cons front ask since)) unheard
        intro step member
        have held := kept step member
        rw [empty] at held
        exact List.prefix_nil.mp held

/-- A tester activates routing, and a tick waits when the interval has passed. -/
def sampleTicking : List LinkAction :=
  [.receive (ActivationRequest.toFrame { source := 0x0E00, activationType := 0 }).encode, .read,
    .takeFrame, .proceed, .proceed, .proceed, .proceed, .proceed, .proceed, .proceed,
    .beginTicking 0, .wait 5000, .fire 0]

/-- Routing is activated, and an alive check is sent when the interval has passed. -/
def sampleAsking : List LinkAction :=
  sampleTicking ++ .takeTick :: List.replicate 6 .proceed

/-- The peer answers an alive check. -/
def sampleAnswer : Frame := AliveCheckResponse.toFrame { source := some 0x0E00 }

/-- The owner is held up in writing a request of the host until the next tick waits.  Meanwhile the
answer of the peer has come, and waits, too. -/
def sampleHeldUp : List LinkAction :=
  [.call (.sendDiagnostic 0x0E00 [0x3E, 0x00]), .takeCommand, .receive sampleAnswer.encode, .read,
    .wait 5000, .fire 0, .proceed]

/-- The owner takes the tick, and goes on until it is gone. -/
def sampleParting : List LinkAction :=
  .takeTick :: (List.replicate 2 .proceed ++ .quitTicking 0 :: List.replicate 9 .proceed)

theorem queue_of_toOption {queue : List (Except FramingFault Frame)} {frame : Frame}
    (waits : queue.map Except.toOption = [some frame]) : queue = [.ok frame] := by
  obtain ⟨entry, rfl, found⟩ := List.map_eq_singleton_iff.mp waits
  cases entry with
  | ok other => rw [Option.some.inj found]
  | error fault => cases found

/-- The check is written before the answer comes, and the answer waits when the tick is taken. -/
theorem sample_traced :
    ((Link.ofGateway (.ofConfig {})).trace? sampleAsking).any (fun asked =>
      asked.2.isWaiting && decide
        ((AliveCheckRequest.toFrame { source := 0x0100 }).encode <:+ asked.2.written ∧
          asked.2.reader.queue.length + asked.2.reader.buffer.length = 0) &&
        (asked.2.trace? sampleHeldUp).any fun answered =>
          decide (answered.2.reader.queue.map Except.toOption = [some sampleAnswer]) &&
            (answered.2.trace? sampleParting).any fun parted =>
              decide (parted.2.fault? = some .aliveCheckTimeout)) = true := by
  decide

/-- The queue holds an answer that has come after the check was written, and the link ends because
the check was not answered. -/
theorem answered_check_expires :
    ∃ asking asked answering answered parting link,
      Link.Runs {} asking asked ∧ asked.owner = .waiting ∧
        (AliveCheckRequest.toFrame { source := 0x0100 }).encode <:+ asked.written ∧
        asked.reader.queue = [] ∧ asked.reader.buffer = [] ∧
        Link.Runs {} (asking ++ answering) answered ∧
        answered.reader.queue = [.ok sampleAnswer] ∧
        Link.Runs {}
          (asking ++ answering ++ { link := answered, action := .takeTick } :: parting) link ∧
        link.fault? = some .aliveCheckTimeout := by
  obtain ⟨⟨asking, asked⟩, askingTraced, seen⟩ := (Option.any_eq_true _ _).mp sample_traced
  simp only [Bool.and_eq_true, decide_eq_true_eq, Nat.add_eq_zero_iff, List.length_eq_zero_iff]
    at seen
  obtain ⟨⟨waiting, written, queue, buffer⟩, seen⟩ := seen
  obtain ⟨⟨answering, answered⟩, answeringTraced, seen⟩ := (Option.any_eq_true _ _).mp seen
  simp only [Bool.and_eq_true, decide_eq_true_eq] at seen
  obtain ⟨waits, seen⟩ := seen
  obtain ⟨⟨parting, link⟩, partingTraced, fault⟩ := (Option.any_eq_true _ _).mp seen
  have ranAsking : Link.Runs {} asking asked := Link.runs_of_trace rfl askingTraced
  have ranAnswering := ranAsking.trace answeringTraced
  have ranParting := ranAnswering.trace partingTraced
  obtain ⟨next, later, -, -, rfl⟩ := Link.trace?_cons_eq_some_iff.mp partingTraced
  exact ⟨asking, asked, answering, answered, later, link, ranAsking,
    Link.eq_waiting_of_isWaiting waiting, written, queue, buffer, ranAnswering,
    queue_of_toOption waits, ranParting, of_decide_eq_true fault⟩

theorem expiry_decided_by_frames_taken_sample :
    ∃ steps link next, Link.Runs {} steps link ∧ link.reader.queue = [.ok sampleAnswer] ∧
      link.act? .takeTick = some next ∧ Unheeded (some 500) steps link.now ∧
      link.EndsUnheeded (some 500) steps := by
  have traced : ((Link.ofGateway (.ofConfig {})).trace? (sampleAsking ++ sampleHeldUp)).any
      (fun run => decide (run.2.reader.queue.map Except.toOption = [some sampleAnswer]) &&
        ((LinkStep.mk run.2 .takeTick).polled.events.any GatewayEvent.isExpiry &&
          (run.2.act? .takeTick).isSome)) = true := by
    decide
  obtain ⟨⟨steps, link⟩, traced, seen⟩ := (Option.any_eq_true _ _).mp traced
  simp only [Bool.and_eq_true, decide_eq_true_eq, Option.isSome_iff_exists] at seen
  obtain ⟨waits, expiry, next, taken⟩ := seen
  have ran : Link.Runs {} steps link := Link.runs_of_trace rfl traced
  have ends : link.EndsUnheeded (some 500) steps := expiry_decided_by_frames_taken ran
  have leaves := (Link.leaves_iff_expires taken).mpr ⟨rfl, expiry⟩
  exact ⟨steps, link, next, ran, queue_of_toOption waits, taken,
    ((ends.decided next taken).mp leaves).2, ends⟩

end DiagnosticGateway
