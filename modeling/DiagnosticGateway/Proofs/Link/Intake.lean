/-
Module: DiagnosticGateway.Proofs.Link.Intake
Purpose: How the bytes of the peer come to the gateway.
Main exports:
  received, handled, Carries, LinkIntake, LinkIntake.Step, Link.intakeStep_of_act,
  LinkIntake.Accounts, Link.Runs.accounts, Link.ReadsStream, stream_handled_in_order
-/
import DiagnosticGateway.Proofs.Frame.Chunks
import DiagnosticGateway.Proofs.Frame.Language
import DiagnosticGateway.Proofs.Link.Trace

/-!
What the peer has sent is, in this order, in the frames that the gateway was given, in the frames that
wait for the owner, and in the bytes that the reader has not cut yet.  A violation waits behind the
frames before it, and the reader stops there.  `LinkIntake.Step` lists what an action can do to this,
and `LinkIntake.Accounts` is what each step keeps.
-/

namespace DiagnosticGateway

/-! ## What is read from a run -/

/-- What comes from outside with an action, as far as the reader and its end are concerned. -/
inductive Incoming where
  | nothing
  /-- Bytes of the peer. -/
  | arrival (bytes : Octets)
  /-- The peer closes its writing direction. -/
  | close
  /-- The host asks for the end of the link. -/
  | cancel

def Incoming.octets : Incoming → Octets
  | .arrival bytes => bytes
  | .nothing | .close | .cancel => []

def LinkAction.incoming : LinkAction → Incoming
  | .receive bytes => .arrival bytes
  | .endInput => .close
  | .cancel => .cancel
  | _ => .nothing

/-- The frame that the gateway was given, if a note tells of one. -/
def LinkNote.frame? : LinkNote → Option Frame
  | .exchanged { input := .frame frame _, output := _ } => some frame
  | _ => none

/-- The bytes of the peer that have come, in order. -/
def received (steps : List LinkStep) : Octets :=
  steps.flatMap fun step => step.action.incoming.octets

/-- The frames that the gateway was given, in order. -/
def handled (steps : List LinkStep) : List Frame := (journal steps).filterMap LinkNote.frame?

/-- The peer closes its writing direction in one of the steps. -/
def Closes (steps : List LinkStep) : Prop := ∃ step ∈ steps, step.action = .endInput

/-- The peer writes a stream: what has come is the beginning of it, and all of it once the peer has
closed. -/
structure Carries (steps : List LinkStep) (stream : Octets) : Prop where
  begins : received steps <+: stream
  whole : Closes steps → received steps = stream

theorem received_concat (steps : List LinkStep) (step : LinkStep) :
    received (steps ++ [step]) = received steps ++ step.action.incoming.octets := by
  simp [received]

theorem handled_concat (steps : List LinkStep) (step : LinkStep) :
    handled (steps ++ [step]) =
      handled steps ++ (step.link.notes step.action).filterMap LinkNote.frame? := by
  simp [handled, journal_concat]

theorem closes_concat_iff {steps : List LinkStep} {step : LinkStep} :
    Closes (steps ++ [step]) ↔ Closes steps ∨ step.action = .endInput := by
  simp [Closes, or_and_right, exists_or]

/-! ## What an action does to the intake -/

/-- What the reader finds when it looks at what has come. -/
def LinkReader.look (reader : LinkReader) : Framer.Outcome :=
  if reader.inputEnded then reader.framer.finish reader.buffer
  else reader.framer.next reader.buffer

/-- What of a link concerns the bytes of the peer: the reader, whether it is told that the link ends,
and how the link ends if it does. -/
structure LinkIntake where
  reader : LinkReader
  cancelled : Bool
  ending : Option (Except LinkFault Unit)

def Link.intake (link : Link) : LinkIntake :=
  { reader := link.reader, cancelled := link.cancelled, ending := link.owner.ending? }

/-- Everything that an action can do to the intake, with what comes from outside and the frames that
are given to the gateway. -/
inductive LinkIntake.Step (before : LinkIntake) :
    Incoming → List Frame → LinkIntake → Prop where
  /-- The action concerns something else. -/
  | aside : Step before .nothing [] before
  /-- Bytes come from the peer. -/
  | received (bytes : Octets) (going : before.reader.inputEnded = false) :
      Step before (.arrival bytes) []
        { before with reader := { before.reader with buffer := before.reader.buffer ++ bytes } }
  /-- The host asks for the end. -/
  | cancelled : Step before .cancel [] { before with cancelled := true }
  /-- The peer closes its writing direction. -/
  | closed :
      Step before .close []
        { before with reader := { before.reader with inputEnded := true } }
  /-- The reader finds a frame. -/
  | found {frame : Frame} {rest : Octets} (working : before.reader.stopped = false)
      (seen : before.reader.look = .frame frame rest) :
      Step before .nothing []
        { before with
          reader :=
            { before.reader with buffer := rest, queue := before.reader.queue ++ [.ok frame] } }
  /-- The reader finds a violation. -/
  | refused {fault : FramingFault} (working : before.reader.stopped = false)
      (seen : before.reader.look = .fault fault) :
      Step before .nothing []
        { before with
          reader :=
            { before.reader with
              stopped := true
              queue := before.reader.queue ++ [.error fault] } }
  /-- The reader finds that all has been cut. -/
  | exhausted (working : before.reader.stopped = false) (ended : before.reader.inputEnded = true)
      (seen : before.reader.look = .wait) :
      Step before .nothing [] { before with reader := { before.reader with stopped := true } }
  /-- The reader notices that the link ends. -/
  | quit (told : before.cancelled = true) :
      Step before .nothing [] { before with reader := { before.reader with stopped := true } }
  /-- The owner takes a frame. -/
  | tookFrame {frame : Frame} {queue : List (Except FramingFault Frame)}
      (going : before.ending = none) (queued : before.reader.queue = .ok frame :: queue) :
      Step before .nothing [frame]
        { before with reader := { before.reader with queue := queue } }
  /-- The owner takes a violation. -/
  | tookFault {fault : FramingFault} {queue : List (Except FramingFault Frame)}
      (going : before.ending = none) (queued : before.reader.queue = .error fault :: queue) :
      Step before .nothing []
        { before with
          reader := { before.reader with queue := queue }
          ending := some (.error (.framing fault)) }
  /-- The owner learns that there will be no more frames. -/
  | tookEnd (going : before.ending = none) (empty : before.reader.queue = [])
      (stopped : before.reader.stopped = true) :
      Step before .nothing [] { before with ending := some (.ok ()) }
  /-- The owner notices that the end was asked for. -/
  | tookCancel (going : before.ending = none) (told : before.cancelled = true) :
      Step before .nothing [] { before with ending := some (.ok ()) }
  /-- The link ends for a reason that the bytes of the peer did not give. -/
  | broke {fault : LinkFault} (going : before.ending = none)
      (other : ∀ violation, fault ≠ .framing violation) :
      Step before .nothing [] { before with ending := some (.error fault) }
  /-- Once the link ends the reader is told and stopped, and what waits is dropped. -/
  | dropped {reader : LinkReader} {cancelled : Bool} (leaving : before.ending ≠ none)
      (ended : reader.inputEnded = before.reader.inputEnded) :
      Step before .nothing [] { before with reader := reader, cancelled := cancelled }

namespace Link

variable {before after : Link}

@[simp] theorem reader_write (link : Link) (bytes : Octets) :
    (link.write bytes).2.reader = link.reader := by
  unfold write
  split <;> rfl

@[simp] theorem cancelled_write (link : Link) (bytes : Octets) :
    (link.write bytes).2.cancelled = link.cancelled := by
  unfold write
  split <;> rfl

@[simp] theorem cancelled_releaseTicker (link : Link) (sequel : AfterTicker) :
    (link.releaseTicker sequel).cancelled = link.cancelled := by
  unfold releaseTicker
  split <;> rfl

@[simp] theorem reader_releaseTicker (link : Link) (sequel : AfterTicker) :
    (link.releaseTicker sequel).reader = link.reader := by
  unfold releaseTicker
  split <;> rfl

/-- What leaves the reader alone, and the end of the link open or settled as it is, is nothing to the
intake. -/
theorem aside_of_eq (reader : after.reader = before.reader)
    (cancelled : after.cancelled = before.cancelled)
    (ending : after.owner.ending? = before.owner.ending?) :
    LinkIntake.Step before.intake .nothing [] after.intake := by
  have same : after.intake = before.intake := by
    simp only [intake, reader, cancelled, ending]
  rw [same]
  exact .aside

theorem dropped_of_eq (leaving : before.intake.ending ≠ none)
    (ended : after.reader.inputEnded = before.reader.inputEnded)
    (ending : after.owner.ending? = before.owner.ending?) :
    LinkIntake.Step before.intake .nothing [] after.intake := by
  have same : after.intake =
      { before.intake with reader := after.reader, cancelled := after.cancelled } := by
    simp only [intake, ending]
  rw [same]
  exact .dropped leaving ended

/-- The owner is given no frame while it goes on with what it has in hand. -/
theorem frames_notes_proceed (link : Link) :
    (link.notes .proceed).filterMap LinkNote.frame? = [] := by
  simp only [notes]
  split
  · split <;> rfl
  · rfl
  · rfl

/-- A failed write ends the link. -/
theorem intake_writeFailed (link : Link) (sequel : Sequel) :
    (link.writeFailed sequel).intake =
      { reader := link.reader
        cancelled := link.cancelled
        ending := some (.error .write) } := by
  cases sequel <;> rfl

theorem intakeStep_of_read (acted : before.read? = some after) :
    LinkIntake.Step before.intake .nothing [] after.intake := by
  unfold read? at acted
  dsimp only at acted
  split at acted
  · cases acted
  rename_i idle
  have working : before.reader.stopped = false := by
    simp only [Bool.or_eq_true, not_or, Bool.not_eq_true] at idle
    exact idle.1
  split at acted
  · rename_i frame rest seen
    cases acted
    exact .found working seen
  · rename_i fault seen
    cases acted
    exact .refused working seen
  · rename_i seen
    split at acted
    · rename_i ended
      cases acted
      exact .exhausted working ended seen
    · cases acted

theorem intakeStep_of_takeFrame (waiting : before.owner = .waiting)
    (acted : before.takeFrame? = some after) :
    LinkIntake.Step before.intake .nothing ((before.notes .takeFrame).filterMap LinkNote.frame?)
      after.intake := by
  have going : before.intake.ending = none := by
    rw [intake, waiting]
    rfl
  cases queued : before.reader.queue with
  | nil =>
      simp only [takeFrame?, queued] at acted
      simp only [notes, queued]
      split at acted
      · rename_i stopped
        cases acted
        exact .tookEnd going queued stopped
      · cases acted
  | cons head queue =>
      cases head with
      | ok frame =>
          simp only [takeFrame?, queued] at acted
          simp only [notes, queued]
          cases acted
          have step := LinkIntake.Step.tookFrame going queued
          rw [intake, waiting] at step
          rw [intake, waiting]
          exact step
      | error fault =>
          simp only [takeFrame?, queued] at acted
          simp only [notes, queued]
          cases acted
          exact .tookFault going queued

theorem intakeStep_of_takeCommand (waiting : before.owner = .waiting)
    (acted : before.takeCommand? = some after) :
    LinkIntake.Step before.intake .nothing ((before.notes .takeCommand).filterMap LinkNote.frame?)
      after.intake := by
  cases queued : before.commands with
  | nil =>
      simp only [takeCommand?, queued] at acted
      cases acted
  | cons head commands =>
      obtain ⟨call, command⟩ := head
      simp only [notes, queued]
      cases command with
      | sendDiagnostic target userData =>
          simp only [takeCommand?, queued] at acted
          split at acted
          · cases acted
            exact aside_of_eq rfl rfl (by rw [waiting]; rfl)
          · cases acted
            exact .aside
      | deactivate =>
          simp only [takeCommand?, queued] at acted
          cases acted
          exact aside_of_eq rfl rfl (by rw [waiting]; rfl)

theorem intakeStep_of_writing {frames : List Frame} {delivery : Delivery}
    (writing : before.owner = .writing frames delivery) (acted : before.proceed? = some after) :
    LinkIntake.Step before.intake .nothing [] after.intake := by
  have going : before.intake.ending = none := by rw [intake, writing]; rfl
  cases frames with
  | nil =>
      simp only [proceed?, writing] at acted
      cases acted
      split
      · rw [intake_writeFailed]
        exact .broke going (by simp)
      · exact aside_of_eq rfl rfl (by rw [writing]; rfl)
  | cons frame frames =>
      simp only [proceed?, writing] at acted
      cases acted
      split
      · exact aside_of_eq (reader_write _ _) (cancelled_write _ _) (by rw [writing]; rfl)
      · rw [intake_writeFailed, reader_write, cancelled_write]
        exact .broke going (by simp)

theorem intakeStep_of_sending {frame : Frame} {call : Nat}
    (sending : before.owner = .sending frame call) (acted : before.proceed? = some after) :
    LinkIntake.Step before.intake .nothing [] after.intake := by
  have going : before.intake.ending = none := by rw [intake, sending]; rfl
  have reader := reader_write before frame.encode
  have cancelled := cancelled_write before frame.encode
  rw [proceed?, sending] at acted
  dsimp only at acted
  cases acted
  generalize before.write frame.encode = written at reader cancelled ⊢
  split
  · exact aside_of_eq reader cancelled (by rw [sending]; rfl)
  · rw [intake_writeFailed, reader, cancelled]
    exact .broke going (by simp)

/-- The link ends with a delivery only over an expiry, which the bytes of the peer do not give. -/
theorem intakeStep_of_passing {delivery : Delivery} (passing : before.owner = .passing delivery)
    (expiry : ∀ outcome, delivery.sequel = .leave outcome → outcome = .error .aliveCheckTimeout)
    (acted : before.proceed? = some after) :
    LinkIntake.Step before.intake .nothing [] after.intake := by
  have going : before.intake.ending = none := by rw [intake, passing]; rfl
  rw [proceed?, passing] at acted
  dsimp only at acted
  split at acted
  · cases acted
    exact aside_of_eq rfl rfl (by rw [passing]; rfl)
  · cases acted
    cases sequel : delivery.sequel with
    | wait | reply call => exact aside_of_eq rfl rfl (by rw [passing]; rfl)
    | leave outcome =>
        cases expiry outcome sequel
        exact .broke going (by simp)

/-- The owner goes on with what it has in hand: the reader is left alone until the link ends. -/
theorem intakeStep_of_proceed
    (expiry : ∀ outcome, before.owner.sequel? = some (.leave outcome) →
      outcome = .error .aliveCheckTimeout)
    (acted : before.proceed? = some after) :
    LinkIntake.Step before.intake .nothing [] after.intake := by
  cases owner : before.owner with
  | waiting | ended outcome =>
      rw [proceed?, owner] at acted
      cases acted
  | writing frames delivery => exact intakeStep_of_writing owner acted
  | sending frame call => exact intakeStep_of_sending owner acted
  | adjusting delivery =>
      rw [proceed?, owner] at acted
      cases acted
      split
      · exact aside_of_eq (reader_releaseTicker _ _) (cancelled_releaseTicker _ _)
          (by rw [ending?_releaseTicker, owner]; rfl)
      · exact aside_of_eq rfl rfl (by rw [owner]; rfl)
  | awaiting number sequel =>
      rw [proceed?, owner] at acted
      dsimp only at acted
      split at acted
      · cases acted
      · cases acted
        exact aside_of_eq rfl rfl (by rw [owner]; rfl)
  | draining sequel =>
      rw [proceed?, owner] at acted
      dsimp only at acted
      split at acted
      · cases acted
        exact aside_of_eq rfl rfl (by rw [owner])
      · cases acted
        exact aside_of_eq rfl rfl (by rw [owner]; exact sequel.ending?_phase)
  | starting delivery =>
      rw [proceed?, owner] at acted
      cases acted
      split
      · exact aside_of_eq rfl rfl (by rw [owner]; rfl)
      · exact aside_of_eq rfl rfl (by rw [owner]; rfl)
  | publishing delivery =>
      rw [proceed?, owner] at acted
      cases acted
      exact aside_of_eq rfl rfl (by rw [owner]; rfl)
  | passing delivery =>
      rw [owner] at expiry
      exact intakeStep_of_passing owner (fun outcome leaves => expiry outcome (congrArg some leaves))
        acted
  | leaving outcome =>
      rw [proceed?, owner] at acted
      cases acted
      have leaving : before.intake.ending ≠ none := by simp [intake, owner, OwnerPhase.ending?]
      exact dropped_of_eq leaving (congrArg LinkReader.inputEnded (reader_releaseTicker _ _))
        (by rw [ending?_releaseTicker, owner]; rfl)
  | stoppingReader outcome | forgetting outcome =>
      rw [proceed?, owner] at acted
      cases acted
      have leaving : before.intake.ending ≠ none := by simp [intake, owner, OwnerPhase.ending?]
      exact dropped_of_eq leaving rfl (by rw [owner]; rfl)

/-- Every action is a step of the intake. -/
theorem intakeStep_of_act {action : LinkAction}
    (expiry : ∀ outcome, before.owner.sequel? = some (.leave outcome) →
      outcome = .error .aliveCheckTimeout)
    (acted : before.act? action = some after) :
    LinkIntake.Step before.intake action.incoming
      ((before.notes action).filterMap LinkNote.frame?) after.intake := by
  cases action with
  | receive bytes =>
      unfold act? at acted
      dsimp only at acted
      split at acted
      · cases acted
      · rename_i going
        cases acted
        exact .received bytes (Bool.eq_false_iff.mpr going)
  | endInput =>
      cases acted
      exact .closed
  | limitRoom room | breakFlush | wait duration =>
      cases acted
      exact .aside
  | cancel =>
      cases acted
      exact .cancelled
  | read => exact intakeStep_of_read acted
  | quitReading =>
      unfold act? at acted
      dsimp only at acted
      split at acted
      · rename_i told
        cases acted
        exact .quit told
      · cases acted
  | beginTicking number =>
      obtain ⟨-, rfl⟩ := turnTicker?_eq_some acted
      exact .aside
  | fire number =>
      obtain ⟨turned, took, rfl⟩ := Option.map_eq_some_iff.mp acted
      obtain ⟨-, rfl⟩ := turnTicker?_eq_some took
      exact .aside
  | quitTicking number =>
      unfold act? quitTicking? at acted
      dsimp only at acted
      split at acted
      · cases acted
        exact .aside
      · cases acted
  | call command =>
      unfold act? call? at acted
      dsimp only at acted
      split at acted
      · split at acted
        · cases acted
          exact .aside
        · cases acted
      · cases acted
        exact .aside
  | takeFrame =>
      obtain ⟨waiting, taken⟩ := waiting_of_taken acted
      exact intakeStep_of_takeFrame waiting taken
  | takeTick =>
      obtain ⟨waiting, taken⟩ := waiting_of_taken acted
      unfold takeTick? at taken
      split at taken
      · cases taken
        exact aside_of_eq rfl rfl (by rw [waiting]; rfl)
      · cases taken
  | takeCommand =>
      obtain ⟨waiting, taken⟩ := waiting_of_taken acted
      exact intakeStep_of_takeCommand waiting taken
  | takeCancel =>
      obtain ⟨waiting, taken⟩ := waiting_of_taken acted
      unfold takeCancel? at taken
      split at taken
      · rename_i told
        cases taken
        exact .tookCancel (by rw [intake, waiting]; rfl) told
      · cases taken
  | proceed =>
      rw [frames_notes_proceed]
      exact intakeStep_of_proceed expiry acted

end Link

/-! ## What each step keeps -/

namespace Framer

variable {framer : Framer} {buffer rest : Octets} {frame : Frame} {fault : FramingFault}
  {ended : Bool}

/-- The bytes at the front break the contract, or they are cut short and no more will come. -/
def Refuses (framer : Framer) (ended : Bool) (buffer : Octets) (fault : FramingFault) : Prop :=
  framer.Violates buffer fault ∨ (ended = true ∧ framer.Unfinished buffer fault)

theorem Refuses.append (refuses : framer.Refuses ended buffer fault) {more : Octets}
    (last : ended = true → more = []) : framer.Refuses ended (buffer ++ more) fault := by
  rcases refuses with violates | ⟨closed, unfinished⟩
  · exact .inl (violates.append more)
  · rw [last closed, List.append_nil]
    exact .inr ⟨closed, unfinished⟩

theorem Refuses.close (refuses : framer.Refuses ended buffer fault) :
    framer.Refuses true buffer fault :=
  refuses.imp_right fun unfinished => ⟨rfl, unfinished.2⟩

theorem Refuses.finish (refuses : framer.Refuses ended buffer fault) :
    framer.finish buffer = .fault fault :=
  finish_eq_fault_iff.mpr (refuses.imp_right And.right)

/-- Frames that are spelled at the front are handed out first. -/
theorem drainFinal_append_of_spells {frames : List Frame} {front : Octets}
    (spells : framer.Spells frames front) (rest : Octets) :
    framer.drainFinal (front ++ rest) =
      { framer.drainFinal rest with frames := frames ++ (framer.drainFinal rest).frames } := by
  obtain ⟨admits, rfl⟩ := spells
  induction frames with
  | nil => rfl
  | cons frame frames inductionHypothesis =>
      obtain ⟨first, others⟩ := List.forall_mem_cons.mp admits
      have found : framer.finish ((frame :: frames).flatMap Frame.encode ++ rest) =
          .frame frame (frames.flatMap Frame.encode ++ rest) :=
        finish_eq_frame_iff.mpr ⟨first, by rw [List.flatMap_cons, List.append_assoc]⟩
      rw [drainFinal_of_frame found, inductionHypothesis others]
      rfl

theorem drainFinal_of_refuses {frames : List Frame} {front : Octets}
    (spells : framer.Spells frames front) (refuses : framer.Refuses ended rest fault) :
    framer.drainFinal (front ++ rest) =
      { frames := frames, rest := rest, fault := some fault } := by
  rw [drainFinal_append_of_spells spells, drainFinal_of_fault refuses.finish, List.append_nil]

/-- The front of what is spelled is spelled by the frames in front. -/
theorem Spells.of_append {frames more : List Frame} {stream : Octets}
    (spells : framer.Spells (frames ++ more) stream) :
    ∃ front back, framer.Spells frames front ∧ stream = front ++ back := by
  obtain ⟨admits, rfl⟩ := spells
  refine ⟨_, more.flatMap Frame.encode, ⟨?_, rfl⟩, List.flatMap_append⟩
  intro frame member
  exact admits frame (List.mem_append_left more member)

theorem Spells.concat {frames : List Frame} {stream : Octets} (spells : framer.Spells frames stream)
    (admits : framer.Admits frame) :
    framer.Spells (frames ++ [frame]) (stream ++ frame.encode) := by
  obtain ⟨all, rfl⟩ := spells
  refine ⟨?_, by simp⟩
  exact List.forall_mem_append.mpr ⟨all, List.forall_mem_singleton.mpr admits⟩

end Framer

namespace LinkReader

variable {reader : LinkReader}

/-- A frame is found where its wire form stands, whether or not more bytes can come. -/
theorem eq_of_look_frame {frame : Frame} {rest : Octets} (seen : reader.look = .frame frame rest) :
    reader.framer.Admits frame ∧ reader.buffer = frame.encode ++ rest := by
  unfold look at seen
  split at seen
  · exact Framer.finish_eq_frame_iff.mp seen
  · exact Framer.next_eq_frame_iff.mp seen

theorem refuses_of_look_fault {fault : FramingFault} (seen : reader.look = .fault fault) :
    reader.framer.Refuses reader.inputEnded reader.buffer fault := by
  unfold look at seen
  split at seen
  · rename_i ended
    exact (Framer.finish_eq_fault_iff.mp seen).imp_right fun unfinished => ⟨ended, unfinished⟩
  · exact .inl (Framer.next_eq_fault_iff.mp seen)

theorem buffer_of_look_wait (seen : reader.look = .wait) (ended : reader.inputEnded = true) :
    reader.buffer = [] := by
  unfold look at seen
  rw [if_pos ended] at seen
  exact Framer.finish_eq_wait_iff.mp seen

end LinkReader

namespace LinkIntake

/-- Where the bytes of the peer are: in the frames that the gateway was given, in the frames that
wait, and in what the reader has not cut yet.  `told` says that the host has asked for the end. -/
inductive Accounts (framer : Framer) (told : Prop) (stream : Octets) (given : List Frame) :
    LinkIntake → Prop where
  /-- No violation has been found. -/
  | going {reader : LinkReader} {cancelled : Bool} {queued : List Frame} {front : Octets}
      (cuts : reader.framer = framer) (asked : cancelled = true → told)
      (queue : reader.queue = queued.map .ok)
      (spells : framer.Spells (given ++ queued) front) (whole : front ++ reader.buffer = stream)
      (stopped : reader.stopped = true → told ∨ (reader.inputEnded = true ∧ reader.buffer = [])) :
      Accounts framer told stream given
        { reader := reader, cancelled := cancelled, ending := none }
  /-- A violation waits behind the frames before it. -/
  | refused {reader : LinkReader} {cancelled : Bool} {queued : List Frame} {front : Octets}
      {fault : FramingFault} (cuts : reader.framer = framer) (asked : cancelled = true → told)
      (queue : reader.queue = queued.map .ok ++ [.error fault])
      (spells : framer.Spells (given ++ queued) front) (whole : front ++ reader.buffer = stream)
      (stopped : reader.stopped = true)
      (refuses : framer.Refuses reader.inputEnded reader.buffer fault) :
      Accounts framer told stream given
        { reader := reader, cancelled := cancelled, ending := none }
  /-- The link ends, and the gateway is given no more frames. -/
  | concluded {reader : LinkReader} {cancelled : Bool} {front rest : Octets}
      {outcome : Except LinkFault Unit} (spells : framer.Spells given front)
      (whole : front ++ rest = stream)
      (violated : ∀ fault, outcome = .error (.framing fault) →
        framer.Refuses reader.inputEnded rest fault)
      (closed : outcome = .ok () → told ∨ (reader.inputEnded = true ∧ rest = [])) :
      Accounts framer told stream given
        { reader := reader, cancelled := cancelled, ending := some outcome }

variable {framer : Framer} {told later : Prop} {stream : Octets} {given frames : List Frame}
  {incoming : Incoming} {before after : LinkIntake}

theorem Accounts.mono (accounts : before.Accounts framer told stream given)
    (onward : told → later) : before.Accounts framer later stream given := by
  cases accounts with
  | going cuts asked queue spells whole stopped =>
      exact .going cuts (onward ∘ asked) queue spells whole fun is => (stopped is).imp_left onward
  | refused cuts asked queue spells whole stopped refuses =>
      exact .refused cuts (onward ∘ asked) queue spells whole stopped refuses
  | concluded spells whole violated closed =>
      exact .concluded spells whole violated fun is => (closed is).imp_left onward

/-- The link ends for a reason that the bytes did not give, or as the host has asked for. -/
theorem Accounts.leave (accounts : before.Accounts framer told stream given)
    (going : before.ending = none) {outcome : Except LinkFault Unit}
    (other : ∀ fault, outcome ≠ .error (.framing fault)) (asked : outcome = .ok () → told) :
    Accounts framer told stream given { before with ending := some outcome } := by
  cases accounts with
  | going _ _ _ spells whole | refused _ _ _ spells whole =>
      obtain ⟨front, back, spelled, rfl⟩ := spells.of_append
      rw [List.append_assoc] at whole
      exact .concluded spelled whole (fun fault same => absurd same (other fault))
        fun closed => .inl (asked closed)
  | concluded => cases going

/-- A step while no violation has been found. -/
theorem Step.accounts_of_going {reader : LinkReader} {cancelled : Bool} {queued : List Frame}
    {front : Octets}
    (step : Step { reader := reader, cancelled := cancelled, ending := none } incoming frames after)
    (cuts : reader.framer = framer) (asked : cancelled = true → told)
    (queue : reader.queue = queued.map .ok) (spells : framer.Spells (given ++ queued) front)
    (whole : front ++ reader.buffer = stream)
    (stopped : reader.stopped = true → told ∨ (reader.inputEnded = true ∧ reader.buffer = [])) :
    after.Accounts framer (told ∨ incoming = .cancel) (stream ++ incoming.octets)
      (given ++ frames) := by
  have before : Accounts framer told stream given
      { reader := reader, cancelled := cancelled, ending := none } :=
    .going cuts asked queue spells whole stopped
  have onward : Accounts framer (told ∨ incoming = .cancel) stream given
      { reader := reader, cancelled := cancelled, ending := none } :=
    before.mono .inl
  cases step with
  | aside =>
      simp only [Incoming.octets, List.append_nil]
      exact onward
  | received bytes unclosed =>
      simp only [Incoming.octets, List.append_nil]
      refine .going cuts (.inl ∘ asked) queue spells (by rw [← whole, List.append_assoc]) ?_
      intro is
      rcases stopped is with told | ⟨ended, -⟩
      · exact .inl (.inl told)
      · exact absurd (unclosed.symm.trans ended) Bool.false_ne_true
  | cancelled =>
      simp only [Incoming.octets, List.append_nil]
      exact .going cuts (fun _ => .inr trivial) queue spells whole fun _ => .inl (.inr trivial)
  | closed =>
      simp only [Incoming.octets, List.append_nil]
      exact .going cuts (.inl ∘ asked) queue spells whole fun is =>
        (stopped is).imp .inl fun all => ⟨rfl, all.2⟩
  | @found frame rest working seen =>
      obtain ⟨admits, split⟩ := LinkReader.eq_of_look_frame seen
      rw [cuts] at admits
      simp only [Incoming.octets, List.append_nil]
      have spelled := spells.concat admits
      rw [List.append_assoc] at spelled
      refine .going cuts (.inl ∘ asked) (by simp [queue]) spelled ?_ fun is => ?_
      · rw [List.append_assoc, ← whole, split]
      · exact absurd (working.symm.trans is) Bool.false_ne_true
  | refused working seen =>
      have refuses := LinkReader.refuses_of_look_fault seen
      rw [cuts] at refuses
      simp only [Incoming.octets, List.append_nil]
      exact .refused cuts (.inl ∘ asked) (by rw [queue]) spells whole rfl refuses
  | exhausted working ended seen =>
      have empty := LinkReader.buffer_of_look_wait seen ended
      simp only [Incoming.octets, List.append_nil]
      exact .going cuts (.inl ∘ asked) queue spells whole fun _ => .inr ⟨ended, empty⟩
  | quit is =>
      simp only [Incoming.octets, List.append_nil]
      exact .going cuts (.inl ∘ asked) queue spells whole fun _ => .inl (.inl (asked is))
  | tookFrame _ head =>
      obtain ⟨frame, others, rfl, same, rest⟩ := List.map_eq_cons_iff.mp (queue.symm.trans head)
      cases same
      simp only [Incoming.octets, List.append_nil]
      rw [← List.singleton_append, ← List.append_assoc] at spells
      exact .going cuts (.inl ∘ asked) rest.symm spells whole fun is => (stopped is).imp_left .inl
  | tookFault _ head =>
      obtain ⟨frame, others, -, same, -⟩ := List.map_eq_cons_iff.mp (queue.symm.trans head)
      cases same
  | tookEnd _ empty is =>
      obtain rfl := List.map_eq_nil_iff.mp (queue.symm.trans empty)
      rw [List.append_nil] at spells
      simp only [Incoming.octets, List.append_nil]
      exact .concluded spells whole nofun fun _ => (stopped is).imp_left .inl
  | tookCancel going is =>
      simp only [Incoming.octets, List.append_nil]
      exact onward.leave going nofun fun _ => .inl (asked is)
  | broke going other =>
      simp only [Incoming.octets, List.append_nil]
      exact onward.leave going (fun violation same => other violation (Except.error.inj same)) nofun
  | dropped leaving => exact absurd rfl leaving

/-- A step while a violation waits. -/
theorem Step.accounts_of_refused {reader : LinkReader} {cancelled : Bool} {queued : List Frame}
    {front : Octets} {fault : FramingFault}
    (step : Step { reader := reader, cancelled := cancelled, ending := none } incoming frames after)
    (cuts : reader.framer = framer) (asked : cancelled = true → told)
    (queue : reader.queue = queued.map .ok ++ [.error fault])
    (spells : framer.Spells (given ++ queued) front) (whole : front ++ reader.buffer = stream)
    (stopped : reader.stopped = true)
    (refuses : framer.Refuses reader.inputEnded reader.buffer fault) :
    after.Accounts framer (told ∨ incoming = .cancel) (stream ++ incoming.octets)
      (given ++ frames) := by
  have before : Accounts framer told stream given
      { reader := reader, cancelled := cancelled, ending := none } :=
    .refused cuts asked queue spells whole stopped refuses
  have onward : Accounts framer (told ∨ incoming = .cancel) stream given
      { reader := reader, cancelled := cancelled, ending := none } :=
    before.mono .inl
  cases step with
  | aside =>
      simp only [Incoming.octets, List.append_nil]
      exact onward
  | received bytes unclosed =>
      simp only [Incoming.octets, List.append_nil]
      refine .refused cuts (.inl ∘ asked) queue spells (by rw [← whole, List.append_assoc]) stopped
        (refuses.append fun ended => ?_)
      exact absurd (unclosed.symm.trans ended) Bool.false_ne_true
  | cancelled =>
      simp only [Incoming.octets, List.append_nil]
      exact .refused cuts (fun _ => .inr trivial) queue spells whole stopped refuses
  | closed =>
      simp only [Incoming.octets, List.append_nil]
      exact .refused cuts (.inl ∘ asked) queue spells whole stopped refuses.close
  | found working | refused working | exhausted working =>
      exact absurd (working.symm.trans stopped) Bool.false_ne_true
  | quit =>
      simp only [Incoming.octets, List.append_nil]
      exact .refused cuts (.inl ∘ asked) queue spells whole rfl refuses
  | tookFrame _ head =>
      simp only [Incoming.octets, List.append_nil]
      cases queued with
      | nil => cases queue.symm.trans head
      | cons frame others =>
          obtain ⟨same, rest⟩ := List.cons.inj (queue.symm.trans head)
          cases same
          rw [← List.singleton_append, ← List.append_assoc] at spells
          exact .refused cuts (.inl ∘ asked) rest.symm spells whole stopped refuses
  | tookFault _ head =>
      cases queued with
      | nil =>
          obtain ⟨same, -⟩ := List.cons.inj (queue.symm.trans head)
          cases same
          rw [List.append_nil] at spells
          simp only [Incoming.octets, List.append_nil]
          refine .concluded spells whole (fun other same => ?_) nofun
          cases same
          exact refuses
      | cons frame others => cases (List.cons.inj (queue.symm.trans head)).1
  | tookEnd _ empty =>
      exact absurd (queue.symm.trans empty) (by simp)
  | tookCancel going is =>
      simp only [Incoming.octets, List.append_nil]
      exact onward.leave going nofun fun _ => .inl (asked is)
  | broke going other =>
      simp only [Incoming.octets, List.append_nil]
      exact onward.leave going (fun violation same => other violation (Except.error.inj same)) nofun
  | dropped leaving => exact absurd rfl leaving

/-- A step once the link ends. -/
theorem Step.accounts_of_concluded {reader : LinkReader} {cancelled : Bool} {front rest : Octets}
    {outcome : Except LinkFault Unit}
    (step : Step { reader := reader, cancelled := cancelled, ending := some outcome } incoming frames
      after)
    (spells : framer.Spells given front) (whole : front ++ rest = stream)
    (violated : ∀ fault, outcome = .error (.framing fault) →
      framer.Refuses reader.inputEnded rest fault)
    (closed : outcome = .ok () → told ∨ (reader.inputEnded = true ∧ rest = [])) :
    after.Accounts framer (told ∨ incoming = .cancel) (stream ++ incoming.octets)
      (given ++ frames) := by
  cases step with
  | received bytes unclosed =>
      simp only [Incoming.octets, List.append_nil]
      have last : reader.inputEnded = true → bytes = [] := fun ended =>
        absurd (unclosed.symm.trans ended) Bool.false_ne_true
      refine .concluded spells (by rw [← whole, List.append_assoc]) (fun fault same => ?_)
        fun is => ?_
      · exact (violated fault same).append last
      · rcases closed is with told | ⟨ended, rfl⟩
        · exact .inl (.inl told)
        · exact absurd (unclosed.symm.trans ended) Bool.false_ne_true
  | closed =>
      simp only [Incoming.octets, List.append_nil]
      exact .concluded spells whole (fun fault same => (violated fault same).close) fun is =>
        (closed is).imp .inl fun all => ⟨rfl, all.2⟩
  | aside | cancelled | found | refused | exhausted | quit =>
      simp only [Incoming.octets, List.append_nil]
      exact .concluded spells whole violated fun is => (closed is).imp_left .inl
  | tookFrame going | tookFault going | tookEnd going | tookCancel going | broke going =>
      cases going
  | dropped _ ended =>
      simp only [Incoming.octets, List.append_nil]
      refine .concluded spells whole (fun fault same => ?_) fun is => ?_
      · rw [ended]
        exact violated fault same
      · rw [ended]
        exact (closed is).imp_left .inl

/-- No step loses a byte, or gives the gateway a frame twice. -/
theorem Step.accounts (step : before.Step incoming frames after)
    (accounts : before.Accounts framer told stream given) :
    after.Accounts framer (told ∨ incoming = .cancel) (stream ++ incoming.octets)
      (given ++ frames) := by
  cases accounts with
  | going cuts asked queue spells whole stopped =>
      exact step.accounts_of_going cuts asked queue spells whole stopped
  | refused cuts asked queue spells whole stopped refuses =>
      exact step.accounts_of_refused cuts asked queue spells whole stopped refuses
  | concluded spells whole violated closed =>
      exact step.accounts_of_concluded spells whole violated closed

/-- The frames that the gateway was given are spelled at the front. -/
theorem Accounts.exists_spells (accounts : before.Accounts framer told stream given) :
    ∃ front rest, framer.Spells given front ∧ front ++ rest = stream := by
  cases accounts with
  | going _ _ _ spells whole | refused _ _ _ spells whole =>
      obtain ⟨front, back, spelled, rfl⟩ := spells.of_append
      rw [List.append_assoc] at whole
      exact ⟨front, _, spelled, whole⟩
  | concluded spells whole => exact ⟨_, _, spells, whole⟩

theorem Accounts.of_violated (accounts : before.Accounts framer told stream given)
    {fault : FramingFault} (ended : before.ending = some (.error (.framing fault))) :
    ∃ front rest, framer.Spells given front ∧ front ++ rest = stream ∧
      framer.Refuses before.reader.inputEnded rest fault := by
  cases accounts with
  | going | refused => cases ended
  | concluded spells whole violated =>
      exact ⟨_, _, spells, whole, violated fault (Option.some.inj ended)⟩

theorem Accounts.of_closed (accounts : before.Accounts framer told stream given)
    (ended : before.ending = some (.ok ())) (untold : ¬told) :
    before.reader.inputEnded = true ∧ framer.Spells given stream := by
  cases accounts with
  | going | refused => cases ended
  | concluded spells whole _ closed =>
      rcases closed (Option.some.inj ended) with is | ⟨closed, empty⟩
      · exact absurd is untold
      · rw [empty, List.append_nil] at whole
        exact ⟨closed, whole ▸ spells⟩

end LinkIntake

/-! ## Runs -/

theorem LinkAction.incoming_eq_cancel_iff {action : LinkAction} :
    action.incoming = .cancel ↔ action = .cancel := by
  cases action <;> simp [incoming]

theorem LinkAction.incoming_eq_close_iff {action : LinkAction} :
    action.incoming = .close ↔ action = .endInput := by
  cases action <;> simp [incoming]

/-- Only the peer closes its writing direction. -/
theorem LinkIntake.Step.inputEnded {before after : LinkIntake} {incoming : Incoming}
    {frames : List Frame} (step : before.Step incoming frames after)
    (ended : after.reader.inputEnded = true) :
    before.reader.inputEnded = true ∨ incoming = .close := by
  cases step with
  | closed => exact .inr rfl
  | dropped _ kept => exact .inl (kept.symm.trans ended)
  | aside | received | cancelled | found | refused | exhausted | quit | tookFrame | tookFault
  | tookEnd | tookCancel | broke => exact .inl ended

namespace Link.Runs

variable {config : GatewayConfig} {steps : List LinkStep} {link : Link}

/-- In every run the bytes of the peer are accounted for. -/
theorem accounts (ran : Runs config steps link) :
    link.intake.Accounts { limit := config.framing.maxPayloadLength } (Cancels steps)
      (received steps) (handled steps) := by
  induction ran with
  | start started =>
      obtain ⟨-, rfl⟩ := Gateway.start?_eq_ok_iff.mp started
      have nothing : Framer.Spells { limit := config.framing.maxPayloadLength } ([] ++ []) [] :=
        ⟨nofun, rfl⟩
      exact .going rfl nofun rfl nothing rfl nofun
  | step ran acted inductionHypothesis =>
      rw [received_concat, handled_concat, cancels_concat_iff, ← LinkAction.incoming_eq_cancel_iff]
      exact (intakeStep_of_act (fun outcome => ran.leave_eq) acted).accounts inductionHypothesis

theorem closes_of_inputEnded (ran : Runs config steps link)
    (ended : link.reader.inputEnded = true) : Closes steps := by
  induction ran with
  | start started => cases ended
  | step ran acted inductionHypothesis =>
      rw [closes_concat_iff, ← LinkAction.incoming_eq_close_iff]
      exact ((intakeStep_of_act (fun outcome => ran.leave_eq) acted).inputEnded ended).imp_left
        inductionHypothesis

end Link.Runs

/-- The gateway is given the frames of a stream that the peer writes, and nothing else. -/
structure Link.ReadsStream (framer : Framer) (steps : List LinkStep) (stream : Octets)
    (link : Link) : Prop where
  /-- At any time the gateway has been given the first frames of the stream. -/
  inOrder : handled steps <+: (framer.drainFinal stream).frames
  /-- What comes behind a violation is never taken for a frame. -/
  unread : ∀ frames front rest fault, framer.Spells frames front → framer.Violates rest fault →
    stream = front ++ rest → handled steps <+: frames
  /-- A link that ends with a violation has given the gateway all frames before it, and it is the
  violation of the stream. -/
  violated : ∀ fault, link.outcome = some (.error (.framing fault)) →
    handled steps = (framer.drainFinal stream).frames ∧
      (framer.drainFinal stream).fault = some fault
  /-- A link that ends well without being asked to has been closed by the peer, and the frames that
  the gateway was given are all of the stream. -/
  closed : link.outcome = some (.ok ()) → ¬Cancels steps →
    Closes steps ∧ framer.Spells (handled steps) stream

/-- However the stream of a peer is cut into pieces, and in whatever order the activities of a link
take their turns, the gateway is given the frames of the stream, each once and in order. -/
theorem stream_handled_in_order {config : GatewayConfig} {steps : List LinkStep} {link : Link}
    {stream : Octets} (ran : Link.Runs config steps link) (carries : Carries steps stream) :
    link.ReadsStream { limit := config.framing.maxPayloadLength } steps stream := by
  obtain ⟨later, rfl⟩ := carries.begins
  have last : link.reader.inputEnded = true → later = [] := fun ended =>
    List.append_right_eq_self.mp (carries.whole (ran.closes_of_inputEnded ended)).symm
  have accounts := ran.accounts
  have inOrder : handled steps <+:
      (Framer.drainFinal { limit := config.framing.maxPayloadLength }
        (received steps ++ later)).frames := by
    obtain ⟨front, rest, spells, whole⟩ := accounts.exists_spells
    rw [← whole, List.append_assoc, Framer.drainFinal_append_of_spells spells]
    exact List.prefix_append _ _
  constructor
  · exact inOrder
  · intro frames front rest fault spells violates whole
    have refuses : Framer.Refuses _ false rest fault := .inl violates
    rw [whole, Framer.drainFinal_of_refuses spells refuses] at inOrder
    exact inOrder
  · intro fault concluded
    obtain ⟨front, rest, spells, whole, refuses⟩ :=
      accounts.of_violated (Link.ending?_of_outcome concluded)
    rw [← whole, List.append_assoc, Framer.drainFinal_of_refuses spells (refuses.append last)]
    exact ⟨rfl, rfl⟩
  · intro concluded uncancelled
    obtain ⟨ended, spells⟩ := accounts.of_closed (Link.ending?_of_outcome concluded) uncancelled
    refine ⟨ran.closes_of_inputEnded ended, ?_⟩
    rw [last ended, List.append_nil]
    exact spells

/-- A response to an alive check, another one whose header is damaged, and one behind it. -/
def sampleDamaged : Octets :=
  [0x02, 0xFD, 0x00, 0x08, 0x00, 0x00, 0x00, 0x02, 0x0E, 0x00,
    0x02, 0xFC, 0x00, 0x08, 0x00, 0x00, 0x00, 0x02, 0x0E, 0x00,
    0x02, 0xFD, 0x00, 0x08, 0x00, 0x00, 0x00, 0x02, 0x0E, 0x00]

/-- It comes in two pieces, and the reader is at the damaged header before the owner is done with the
first response. -/
def sampleDamagedActions : List LinkAction :=
  [.receive (sampleDamaged.take 5), .receive (sampleDamaged.drop 5), .read, .takeFrame, .read] ++
    List.replicate 6 .proceed ++ .takeFrame :: List.replicate 3 .proceed

theorem stream_handled_in_order_sample :
    ∃ steps link, Link.Runs {} steps link ∧ Carries steps sampleDamaged ∧
      handled steps = [.ofPayload .aliveCheckResponse [0x0E, 0x00]] ∧
      link.outcome = some (.error (.framing (.versionMismatch 0x02 0xFC))) ∧
      link.ReadsStream { limit := 65536 } steps sampleDamaged := by
  have traced : ((Link.ofGateway (.ofConfig {})).trace? sampleDamagedActions).any
      (fun run => decide (received run.1 = sampleDamaged) &&
        (decide (handled run.1 = [.ofPayload .aliveCheckResponse [0x0E, 0x00]]) &&
          decide (run.2.fault? = some (.framing (.versionMismatch 0x02 0xFC))))) = true := by
    decide
  obtain ⟨⟨steps, link⟩, traced, seen⟩ := (Option.any_eq_true _ _).mp traced
  simp only [Bool.and_eq_true, decide_eq_true_eq] at seen
  obtain ⟨whole, one, violated⟩ := seen
  have ran : Link.Runs {} steps link := Link.runs_of_trace rfl traced
  have carries : Carries steps sampleDamaged :=
    ⟨whole ▸ List.prefix_refl _, fun _ => whole⟩
  exact ⟨steps, link, ran, carries, one, Link.fault?_eq_some_iff.mp violated,
    stream_handled_in_order ran carries⟩

end DiagnosticGateway
