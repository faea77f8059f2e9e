/-
Module: DiagnosticGateway.Proofs.Link.Run
Purpose: The runs of a link, and what is noted of them.
Main exports:
  LinkNote, Link.notes, Link.Reaches, Link.play?, Link.reaches_iff_play
-/
import DiagnosticGateway.Link.Step
import DiagnosticGateway.Proofs.Gateway.Exchange

/-!
A run of a link is any sequence of possible actions.  Its journal notes, in order, what the owner has
put to the gateway with the output that it was given, and which tickers it has started.
-/

namespace DiagnosticGateway

/-- Something to note of a run. -/
inductive LinkNote where
  /-- The gateway has taken a frame, a poll or the request to deactivate. -/
  | exchanged (exchange : Exchange)
  /-- A ticker was started. -/
  | started (number : Nat) (time : Time)
  /-- The session was forgotten. -/
  | forgotten

namespace Link

/-- What is to be noted when a link takes an action. -/
def notes (link : Link) : LinkAction → List LinkNote
  | .takeFrame =>
      match link.reader.queue with
      | .ok frame :: _ => [.exchanged (link.gateway.exchange (.frame frame link.now))]
      | .error _ :: _ | [] => []
  | .takeTick => [.exchanged (link.gateway.exchange (.poll link.now))]
  | .takeCommand =>
      match link.commands with
      | (_, .deactivate) :: _ => [.exchanged (link.gateway.exchange .deactivate)]
      | (_, .sendDiagnostic _ _) :: _ | [] => []
  | .proceed =>
      match link.owner with
      | .starting _ =>
          if link.gateway.routing.isActive && link.held.isNone then [.started link.starts link.now]
          else []
      | .forgetting _ => [.forgotten]
      | _ => []
  | _ => []

/-- A link that was set up with valid settings can come to this state, and its journal is then this
one. -/
inductive Reaches (config : GatewayConfig) : List LinkNote → Link → Prop where
  | start {gateway : Gateway} (started : Gateway.start? config = .ok gateway) :
      Reaches config [] (.ofGateway gateway)
  | step {journal : List LinkNote} {before after : Link} {action : LinkAction}
      (reached : Reaches config journal before) (acted : before.act? action = some after) :
      Reaches config (journal ++ before.notes action) after

/-- Take actions in order: the journal, and the link at the end.  There is no result if an action is
not possible. -/
def play? (link : Link) : List LinkAction → Option (List LinkNote × Link)
  | [] => some ([], link)
  | action :: actions => do
      let next ← link.act? action
      let (journal, last) ← next.play? actions
      pure (link.notes action ++ journal, last)

theorem play?_cons_eq_some_iff {link last : Link} {action : LinkAction} {actions : List LinkAction}
    {journal : List LinkNote} :
    link.play? (action :: actions) = some (journal, last) ↔
      ∃ next later, link.act? action = some next ∧ next.play? actions = some (later, last) ∧
        journal = link.notes action ++ later := by
  simp only [play?, Option.bind_eq_bind, Option.bind_eq_some_iff, Option.pure_def, Option.some.injEq,
    Prod.mk.injEq, Prod.exists]
  constructor
  · rintro ⟨next, acted, later, final, played, same, rfl⟩
    exact ⟨next, later, acted, played, same.symm⟩
  · rintro ⟨next, later, acted, played, same⟩
    exact ⟨next, acted, later, last, played, same.symm, rfl⟩

theorem play?_append {link middle last : Link} {front back : List LinkAction}
    {earlier later : List LinkNote} (first : link.play? front = some (earlier, middle))
    (second : middle.play? back = some (later, last)) :
    link.play? (front ++ back) = some (earlier ++ later, last) := by
  induction front generalizing link earlier with
  | nil =>
      cases first
      exact second
  | cons action front inductionHypothesis =>
      obtain ⟨next, between, acted, played, rfl⟩ := play?_cons_eq_some_iff.mp first
      rw [List.cons_append, List.append_assoc]
      exact play?_cons_eq_some_iff.mpr ⟨next, _, acted, inductionHypothesis played, rfl⟩

/-- Exactly the sequences of actions from a fresh link lead anywhere. -/
theorem reaches_iff_play {config : GatewayConfig} {journal : List LinkNote} {link : Link} :
    Reaches config journal link ↔
      ∃ gateway actions, Gateway.start? config = .ok gateway ∧
        (ofGateway gateway).play? actions = some (journal, link) := by
  constructor
  · intro reached
    induction reached with
    | start started => exact ⟨_, [], started, rfl⟩
    | @step journal before after action reached acted inductionHypothesis =>
        obtain ⟨gateway, actions, started, played⟩ := inductionHypothesis
        have last : before.play? [action] = some (before.notes action, after) :=
          play?_cons_eq_some_iff.mpr ⟨after, [], acted, rfl, (List.append_nil _).symm⟩
        exact ⟨gateway, actions ++ [action], started, play?_append played last⟩
  · rintro ⟨gateway, actions, started, played⟩
    suffices general : ∀ (actions : List LinkAction) (before : Link) (earlier later : List LinkNote),
        Reaches config earlier before → before.play? actions = some (later, link) →
          Reaches config (earlier ++ later) link by
      exact general actions _ [] journal (.start started) played
    intro actions
    induction actions with
    | nil =>
        intro before earlier later reached played
        cases played
        rwa [List.append_nil]
    | cons action actions inductionHypothesis =>
        intro before earlier later reached played
        obtain ⟨next, between, acted, rest, rfl⟩ := play?_cons_eq_some_iff.mp played
        rw [← List.append_assoc]
        exact inductionHypothesis next _ _ (reached.step acted) rest

end Link

end DiagnosticGateway
