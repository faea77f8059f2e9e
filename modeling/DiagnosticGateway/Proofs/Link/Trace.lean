/-
Module: DiagnosticGateway.Proofs.Link.Trace
Purpose: The runs of a link, step by step.
Main exports:
  LinkStep, journal, Link.Runs, Link.Runs.reaches, Link.reaches_iff_runs, Link.trace?,
  Link.Runs.trace, Link.runs_of_trace, OwnerPhase.ending?, Link.fault?, Link.Moves.leave_cases
-/
import DiagnosticGateway.Proofs.Link.Move

/-!
The journal of a run tells what the owner has put to the gateway.  What the peer has sent, what the
host has asked for and what was written between is not in it, but can be read from the run itself:
from all its links, each with the action that it takes.
-/

namespace DiagnosticGateway

/-- One step of a run. -/
structure LinkStep where
  link : Link
  action : LinkAction

/-- What is noted of the steps of a run. -/
def journal (steps : List LinkStep) : List LinkNote :=
  steps.flatMap fun step => step.link.notes step.action

/-- The host asks for the end of the link in one of the steps. -/
def Cancels (steps : List LinkStep) : Prop := ∃ step ∈ steps, step.action = .cancel

namespace Link

/-- A link that was set up with valid settings can come to this state by these steps. -/
inductive Runs (config : GatewayConfig) : List LinkStep → Link → Prop where
  | start {gateway : Gateway} (started : Gateway.start? config = .ok gateway) :
      Runs config [] (.ofGateway gateway)
  | step {steps : List LinkStep} {before after : Link} {action : LinkAction}
      (ran : Runs config steps before) (acted : before.act? action = some after) :
      Runs config (steps ++ [{ link := before, action := action }]) after

/-- Take actions in order: the steps, and the link at the end. -/
def trace? (link : Link) : List LinkAction → Option (List LinkStep × Link)
  | [] => some ([], link)
  | action :: actions => do
      let next ← link.act? action
      let (steps, last) ← next.trace? actions
      pure ({ link := link, action := action } :: steps, last)

end Link

theorem journal_concat (steps : List LinkStep) (step : LinkStep) :
    journal (steps ++ [step]) = journal steps ++ step.link.notes step.action := by
  simp [journal]

theorem cancels_concat_iff {steps : List LinkStep} {step : LinkStep} :
    Cancels (steps ++ [step]) ↔ Cancels steps ∨ step.action = .cancel := by
  simp [Cancels, or_and_right, exists_or]

/-- The last element of a list is the one in the middle, or it is behind it. -/
theorem of_concat_eq_append_cons {steps earlier since : List LinkStep} {step ask : LinkStep}
    (split : steps ++ [step] = earlier ++ ask :: since) :
    (since = [] ∧ earlier = steps ∧ ask = step) ∨
      ∃ between, since = between ++ [step] ∧ steps = earlier ++ ask :: between := by
  rcases since.eq_nil_or_concat with rfl | ⟨between, last, rfl⟩
  · obtain ⟨same, lastEq⟩ := List.append_inj' split rfl
    exact .inl ⟨rfl, same.symm, (List.singleton_inj.mp lastEq).symm⟩
  · rw [List.concat_eq_append, ← List.cons_append, ← List.append_assoc] at split
    obtain ⟨same, lastEq⟩ := List.append_inj' split rfl
    obtain rfl := List.singleton_inj.mp lastEq
    exact .inr ⟨between, List.concat_eq_append, same⟩

namespace Link

/-- The notes of a run are its journal. -/
theorem Runs.reaches {config : GatewayConfig} {steps : List LinkStep} {link : Link}
    (ran : Runs config steps link) : Reaches config (journal steps) link := by
  induction ran with
  | start started => exact .start started
  | step ran acted inductionHypothesis =>
      rw [journal_concat]
      exact inductionHypothesis.step acted

/-- Every journal is that of a run. -/
theorem reaches_iff_runs {config : GatewayConfig} {notes : List LinkNote} {link : Link} :
    Reaches config notes link ↔ ∃ steps, Runs config steps link ∧ journal steps = notes := by
  constructor
  · intro reached
    induction reached with
    | start started => exact ⟨[], .start started, rfl⟩
    | step reached acted inductionHypothesis =>
        obtain ⟨steps, ran, rfl⟩ := inductionHypothesis
        exact ⟨_, ran.step acted, journal_concat _ _⟩
  · rintro ⟨steps, ran, rfl⟩
    exact ran.reaches

theorem trace?_cons_eq_some_iff {link last : Link} {action : LinkAction}
    {actions : List LinkAction} {steps : List LinkStep} :
    link.trace? (action :: actions) = some (steps, last) ↔
      ∃ next later, link.act? action = some next ∧ next.trace? actions = some (later, last) ∧
        steps = { link := link, action := action } :: later := by
  simp only [trace?, Option.bind_eq_bind, Option.bind_eq_some_iff, Option.pure_def,
    Option.some.injEq, Prod.mk.injEq, Prod.exists]
  constructor
  · rintro ⟨next, acted, later, final, traced, same, rfl⟩
    exact ⟨next, later, acted, traced, same.symm⟩
  · rintro ⟨next, later, acted, traced, same⟩
    exact ⟨next, acted, later, last, traced, same.symm, rfl⟩

/-- Every step was taken after a run of those before it. -/
theorem Runs.of_append_cons {config : GatewayConfig} {steps earlier later : List LinkStep}
    {link : Link} {step : LinkStep}
    (ran : Runs config steps link) (split : steps = earlier ++ step :: later) :
    Runs config earlier step.link ∧ ∃ next, step.link.act? step.action = some next := by
  induction ran generalizing later with
  | start started => exact absurd split (by simp)
  | step ran acted inductionHypothesis =>
      rcases of_concat_eq_append_cons split with ⟨rfl, rfl, rfl⟩ | ⟨between, rfl, rfl⟩
      · exact ⟨ran, _, acted⟩
      · exact inductionHypothesis rfl

/-- What is traced from where a run has come to goes on with it. -/
theorem Runs.trace {config : GatewayConfig} {steps later : List LinkStep} {link last : Link}
    {actions : List LinkAction} (ran : Runs config steps link)
    (traced : link.trace? actions = some (later, last)) : Runs config (steps ++ later) last := by
  induction actions generalizing link steps later with
  | nil =>
      cases traced
      rwa [List.append_nil]
  | cons action actions inductionHypothesis =>
      obtain ⟨next, between, acted, rest, rfl⟩ := trace?_cons_eq_some_iff.mp traced
      have onward := inductionHypothesis (ran.step acted) rest
      rwa [List.append_assoc] at onward

/-- What was traced from a fresh link is a run. -/
theorem runs_of_trace {config : GatewayConfig} {gateway : Gateway} {actions : List LinkAction}
    {steps : List LinkStep} {link : Link} (started : Gateway.start? config = .ok gateway)
    (traced : (ofGateway gateway).trace? actions = some (steps, link)) :
    Runs config steps link := (Runs.start started).trace traced

end Link

/-! ## How a link comes to its end -/

/-- How the link ends, once the owner has seen that it does. -/
def AfterTicker.ending? : AfterTicker → Option (Except LinkFault Unit)
  | .deliver _ => none
  | .leave outcome => some outcome

/-- How the link ends, once the owner has seen that it does. -/
def OwnerPhase.ending? : OwnerPhase → Option (Except LinkFault Unit)
  | .waiting | .writing _ _ | .sending _ _ | .adjusting _ | .starting _ | .publishing _
  | .passing _ => none
  | .awaiting _ after | .draining after => after.ending?
  | .leaving outcome | .stoppingReader outcome | .forgetting outcome | .ended outcome =>
      some outcome

/-- What the owner does when it is done with the output that it has in hand. -/
def AfterTicker.sequel? : AfterTicker → Option Sequel
  | .deliver delivery => some delivery.sequel
  | .leave _ => none

/-- What the owner does when it is done with the output that it has in hand. -/
def OwnerPhase.sequel? : OwnerPhase → Option Sequel
  | .writing _ delivery | .adjusting delivery | .starting delivery | .publishing delivery
  | .passing delivery => some delivery.sequel
  | .awaiting _ after | .draining after => after.sequel?
  | .waiting | .sending _ _ | .leaving _ | .stoppingReader _ | .forgetting _ | .ended _ => none

@[simp] theorem AfterTicker.ending?_phase (after : AfterTicker) :
    after.phase.ending? = after.ending? := by
  cases after <;> rfl

@[simp] theorem AfterTicker.sequel?_phase (after : AfterTicker) :
    after.phase.sequel? = after.sequel? := by
  cases after <;> rfl

namespace Link

variable {before after : Link} {notes : List LinkNote}

@[simp] theorem ending?_releaseTicker (link : Link) (sequel : AfterTicker) :
    (link.releaseTicker sequel).owner.ending? = sequel.ending? := by
  unfold releaseTicker
  split
  · rfl
  · exact sequel.ending?_phase

@[simp] theorem sequel?_releaseTicker (link : Link) (sequel : AfterTicker) :
    (link.releaseTicker sequel).owner.sequel? = sequel.sequel? := by
  unfold releaseTicker
  split
  · rfl
  · exact sequel.sequel?_phase

/-- The owner takes something only when it waits. -/
theorem waiting_of_taken {taken : Option Link}
    (acted : (if before.isWaiting then taken else none) = some after) :
    before.owner = .waiting ∧ taken = some after := by
  split at acted
  · rename_i waiting
    exact ⟨eq_waiting_of_isWaiting waiting, acted⟩
  · cases acted

theorem ending?_of_outcome {link : Link} {outcome : Except LinkFault Unit}
    (concluded : link.outcome = some outcome) : link.owner.ending? = some outcome := by
  rw [owner_of_outcome concluded]
  rfl

/-- Why a link has ended, if it did not end well. -/
def fault? (link : Link) : Option LinkFault :=
  match link.outcome with
  | some (.error fault) => some fault
  | _ => none

theorem fault?_eq_some_iff {link : Link} {fault : LinkFault} :
    link.fault? = some fault ↔ link.outcome = some (.error fault) := by
  unfold fault?
  split
  · rename_i other concluded
    rw [concluded]
    simp
  · rename_i running
    simp only [reduceCtorEq, false_iff]
    exact running fault

/-- Only an expiry makes the owner end the link when it is done with an output. -/
theorem Moves.leave_cases {outcome : Except LinkFault Unit} (moves : Moves before notes after)
    (leaves : after.owner.sequel? = some (.leave outcome)) :
    before.owner.sequel? = some (.leave outcome) ∨
      (outcome = .error .aliveCheckTimeout ∧
        notes = [.exchanged (before.gateway.exchange (.poll before.now))] ∧
        (before.gateway.step (.poll before.now)).1.events.any GatewayEvent.isExpiry = true) := by
  cases moves with
  | aside | begun | fired | quit => exact .inl leaves
  | tookFrame | tookDeactivation | tookCall | tookEnd | sent | broke | brokeCall | finished
  | expired | stoppedReader | forgot => cases leaves
  | tookTick =>
      simp only [OwnerPhase.sequel?] at leaves
      split at leaves
      · rename_i expiry
        cases leaves
        exact .inr ⟨rfl, rfl, expiry⟩
      · cases leaves
  | wrote _ owner | wroteAll owner | spared owner | stopped owner | dropped owner | started owner
  | unchanged owner | published owner | passed owner =>
      rw [owner]
      exact .inl leaves
  | released adjusting =>
      rw [sequel?_releaseTicker] at leaves
      rw [adjusting]
      exact .inl leaves
  | drained draining =>
      rw [AfterTicker.sequel?_phase] at leaves
      rw [draining]
      exact .inl leaves
  | left =>
      rw [sequel?_releaseTicker] at leaves
      cases leaves

theorem Runs.leave_eq {config : GatewayConfig} {steps : List LinkStep} {link : Link}
    {outcome : Except LinkFault Unit} (ran : Runs config steps link)
    (leaves : link.owner.sequel? = some (.leave outcome)) :
    outcome = .error .aliveCheckTimeout := by
  induction ran with
  | start started => cases leaves
  | step ran acted inductionHypothesis =>
      rcases (moves_of_act acted).leave_cases leaves with before | expiry
      · exact inductionHypothesis before
      · exact expiry.1

end Link

end DiagnosticGateway
