/-
Module: DiagnosticGateway.Proofs.Download.Calls
Purpose: What any sequence of calls makes of a download.
Main exports:
  DownloadCall, Download.call, Download.eq_of_call_eq_error, AnsweredCall, DownloadRun,
  Download.run, blocksSinceOpening, DownloadRun.Accounted, Download.accounted_run,
  Download.calls_accounted
-/
import DiagnosticGateway.Proofs.Download.Session
import Mathlib.Data.List.DropRight

/-!
The caller of a download may make any call at any time, and sees only which calls are refused.  That
is enough to tell how a download stands: the counter it expects and the bytes it holds are those of
the blocks granted since the last opening, whatever was refused, closed or given up in between.
-/

namespace DiagnosticGateway

/-! ## Calls and what they come to -/

/-- A call on a download, with the arguments that the caller chose. -/
inductive DownloadCall where
  | request (dataFormat : UInt8) (address size : UInt32)
  | receive (counter : UInt8) (block : Octets)
  | exit
  | abort
deriving DecidableEq

/-- Whether an operation was refused, and the download afterwards. -/
def Download.forgetAnswer {Answer : Type} (outcome : Except DownloadFault Answer × Download) :
    Except DownloadFault Unit × Download :=
  (outcome.1.map fun _ => (), outcome.2)

/-- Make a call. -/
def Download.call (download : Download) : DownloadCall → Except DownloadFault Unit × Download
  | .request dataFormat address size => forgetAnswer (download.request dataFormat address size)
  | .receive counter block => forgetAnswer (download.receive counter block)
  | .exit => forgetAnswer download.exit
  | .abort => (.ok (), download.abort)

namespace Download

variable {download next : Download}

theorem exists_answer_of_forgetAnswer {Answer : Type}
    {outcome : Except DownloadFault Answer × Download}
    (granted : forgetAnswer outcome = (.ok (), next)) :
    ∃ answer, outcome = (.ok answer, next) := by
  obtain ⟨result, download⟩ := outcome
  cases result with
  | error fault => cases granted
  | ok answer =>
      cases granted
      exact ⟨answer, rfl⟩

theorem refused_of_forgetAnswer {Answer : Type} {outcome : Except DownloadFault Answer × Download}
    {fault : DownloadFault} (refused : forgetAnswer outcome = (.error fault, next)) :
    outcome = (.error fault, next) := by
  obtain ⟨result, download⟩ := outcome
  cases result with
  | error fault =>
      cases refused
      rfl
  | ok answer => cases refused

/-- A call that is refused leaves the download as it was. -/
theorem eq_of_call_eq_error {call : DownloadCall} {fault : DownloadFault}
    (refused : download.call call = (.error fault, next)) : next = download := by
  cases call with
  | request dataFormat address size =>
      exact eq_of_request_eq_error (refused_of_forgetAnswer refused)
  | receive counter block => exact eq_of_receive_eq_error (refused_of_forgetAnswer refused)
  | exit => exact eq_of_exit_eq_error (refused_of_forgetAnswer refused)
  | abort => cases refused

end Download

/-- A call and why it was refused, if it was. -/
structure AnsweredCall where
  call : DownloadCall
  refusal : Option DownloadFault := none
deriving DecidableEq

namespace AnsweredCall

/-- Whether a call opened a download. -/
def opens : AnsweredCall → Bool
  | { call := .request _ _ _, refusal := none } => true
  | _ => false

/-- The block that a call brought, if it was granted. -/
def block? : AnsweredCall → Option Octets
  | { call := .receive _ block, refusal := none } => some block
  | _ => none

theorem opens_of_refusal {answered : AnsweredCall} {fault : DownloadFault}
    (refused : answered.refusal = some fault) : answered.opens = false := by
  obtain ⟨call, refusal⟩ := answered
  obtain rfl : refusal = some fault := refused
  cases call <;> rfl

theorem block?_of_refusal {answered : AnsweredCall} {fault : DownloadFault}
    (refused : answered.refusal = some fault) : answered.block? = none := by
  obtain ⟨call, refusal⟩ := answered
  obtain rfl : refusal = some fault := refused
  cases call <;> rfl

end AnsweredCall

/-- A download and the calls that made it what it is. -/
structure DownloadRun where
  journal : List AnsweredCall := []
  download : Download
deriving DecidableEq

/-- A run with one more call. -/
def DownloadRun.take (run : DownloadRun) (call : DownloadCall) : DownloadRun :=
  match run.download.call call with
  | (.ok (), next) => { journal := run.journal ++ [{ call := call }], download := next }
  | (.error fault, next) =>
      { journal := run.journal ++ [{ call := call, refusal := some fault }], download := next }

/-- A sequence of calls. -/
def Download.run (download : Download) (calls : List DownloadCall) : DownloadRun :=
  calls.foldl DownloadRun.take { download := download }

/-- The blocks granted since the last opening, in order. -/
def blocksSinceOpening (journal : List AnsweredCall) : List Octets :=
  (journal.rtakeWhile fun answered => !answered.opens).filterMap AnsweredCall.block?

section

variable {journal : List AnsweredCall} {answered : AnsweredCall}

theorem blocksSinceOpening_of_opens (opens : answered.opens = true) :
    blocksSinceOpening (journal ++ [answered]) = [] := by
  unfold blocksSinceOpening
  rw [List.rtakeWhile_concat_neg _ _ _ (by simp [opens])]
  rfl

theorem blocksSinceOpening_concat (closed : answered.opens = false) :
    blocksSinceOpening (journal ++ [answered]) =
      blocksSinceOpening journal ++ answered.block?.toList := by
  unfold blocksSinceOpening
  rw [List.rtakeWhile_concat_pos _ _ _ (by simp [closed]), List.filterMap_append]
  cases block : answered.block? <;> simp [block]

end

/-! ## What every run keeps -/

namespace DownloadRun

variable {limits : DownloadLimits} {run : DownloadRun} {call : DownloadCall} {next : Download}

/-- How a download stands, told from the calls that were made. -/
structure Accounted (limits : DownloadLimits) (run : DownloadRun) : Prop where
  limits : run.download.limits = limits
  sound : run.download.Sound
  nextCounter : run.download.nextCounter =
    Download.blockCounter (blocksSinceOpening run.journal).length
  received : run.download.isActive = true →
    run.download.received = (blocksSinceOpening run.journal).flatten
  opened : run.download.isActive = true → ∃ answered ∈ run.journal, answered.opens = true
  unopened : (∀ answered ∈ run.journal, answered.opens = false) →
    blocksSinceOpening run.journal = []

namespace Accounted

/-- A call that neither opens a download nor brings a block leaves the account as it stands; the
download may have been closed by it. -/
theorem passed {answered : AnsweredCall} (accounted : run.Accounted limits)
    (closed : answered.opens = false) (blockless : answered.block? = none)
    (sameLimits : next.limits = run.download.limits) (sound : next.Sound)
    (sameCounter : next.nextCounter = run.download.nextCounter)
    (active : next.isActive = true → next = run.download) :
    Accounted limits { journal := run.journal ++ [answered], download := next } := by
  have blocks : blocksSinceOpening (run.journal ++ [answered]) =
      blocksSinceOpening run.journal := by
    rw [blocksSinceOpening_concat closed, blockless]
    exact List.append_nil _
  constructor
  case limits => exact sameLimits.trans accounted.limits
  case sound => exact sound
  case nextCounter => rw [blocks, sameCounter, accounted.nextCounter]
  case received =>
    intro stays
    obtain rfl := active stays
    rw [blocks]
    exact accounted.received stays
  case opened =>
    intro stays
    obtain rfl := active stays
    obtain ⟨opening, member, opens⟩ := accounted.opened stays
    exact ⟨opening, List.mem_append_left _ member, opens⟩
  case unopened =>
    intro none
    rw [blocks]
    exact accounted.unopened fun other member => none other (List.mem_append_left _ member)

theorem request {dataFormat : UInt8} {address size : UInt32} {maxBlockLength : UInt16}
    (accounted : run.Accounted limits)
    (granted : run.download.request dataFormat address size = (.ok maxBlockLength, next)) :
    Accounted limits
      { journal := run.journal ++ [{ call := .request dataFormat address size }]
        download := next } := by
  have sound := Download.Sound.request granted
  obtain ⟨-, -, -, rfl⟩ := Download.request_eq_ok_iff.mp granted
  have blocks := @blocksSinceOpening_of_opens run.journal
    { call := .request dataFormat address size } rfl
  constructor
  case limits => exact accounted.limits
  case sound => exact sound
  case nextCounter =>
    rw [blocks]
    rfl
  case received =>
    intro _
    rw [blocks]
    rfl
  case opened => exact fun _ => ⟨_, List.mem_append_right _ (List.mem_singleton_self _), rfl⟩
  case unopened => exact fun _ => blocks

theorem receive {counter : UInt8} {block : Octets} {receipt : BlockReceipt}
    (accounted : run.Accounted limits)
    (granted : run.download.receive counter block = (.ok receipt, next)) :
    Accounted limits
      { journal := run.journal ++ [{ call := .receive counter block }], download := next } := by
  have sound := accounted.sound.receive granted
  obtain ⟨active, -, -, -, -, -, rfl⟩ := Download.receive_eq_ok_iff.mp granted
  have blocks : blocksSinceOpening (run.journal ++ [{ call := .receive counter block }]) =
      blocksSinceOpening run.journal ++ [block] := blocksSinceOpening_concat rfl
  obtain ⟨opening, member, opens⟩ := accounted.opened active
  constructor
  case limits => exact accounted.limits
  case sound => exact sound
  case nextCounter =>
    show Download.counterAfter run.download.nextCounter = _
    rw [blocks, accounted.nextCounter, Download.counterAfter_blockCounter, List.length_append]
    rfl
  case received =>
    intro _
    show run.download.received ++ block = _
    rw [blocks, accounted.received active, List.flatten_append, List.flatten_singleton]
  case opened => exact fun _ => ⟨opening, List.mem_append_left _ member, opens⟩
  case unopened =>
    -- A block is granted only to an active download, and that was opened.
    intro none
    have closed := none opening (List.mem_append_left _ member)
    rw [opens] at closed
    cases closed

theorem exit {image : DownloadedImage} (accounted : run.Accounted limits)
    (granted : run.download.exit = (.ok image, next)) :
    Accounted limits { journal := run.journal ++ [{ call := .exit }], download := next } := by
  have sound := Download.Sound.exit granted
  obtain ⟨-, -, rfl⟩ := Download.exit_eq_ok_iff.mp granted
  exact accounted.passed rfl rfl rfl sound rfl (fun active => by cases active)

theorem abort (accounted : run.Accounted limits) :
    Accounted limits
      { journal := run.journal ++ [{ call := .abort }], download := run.download.abort } :=
  accounted.passed rfl rfl rfl (.abort run.download) rfl (fun active => by cases active)

/-- A refused call leaves the download as it was. -/
theorem refused {fault : DownloadFault} (accounted : run.Accounted limits) :
    Accounted limits
      { run with journal := run.journal ++ [{ call := call, refusal := some fault }] } :=
  accounted.passed (AnsweredCall.opens_of_refusal rfl) (AnsweredCall.block?_of_refusal rfl) rfl
    accounted.sound rfl (fun _ => rfl)

/-- One call. -/
theorem take (accounted : run.Accounted limits) (call : DownloadCall) :
    (run.take call).Accounted limits := by
  unfold DownloadRun.take
  split
  · rename_i next granted
    cases call with
    | request dataFormat address size =>
        obtain ⟨maxBlockLength, granted⟩ := Download.exists_answer_of_forgetAnswer granted
        exact accounted.request granted
    | receive counter block =>
        obtain ⟨receipt, granted⟩ := Download.exists_answer_of_forgetAnswer granted
        exact accounted.receive granted
    | exit =>
        obtain ⟨image, granted⟩ := Download.exists_answer_of_forgetAnswer granted
        exact accounted.exit granted
    | abort =>
        cases granted
        exact accounted.abort
  · rename_i fault next refused
    rw [Download.eq_of_call_eq_error refused]
    exact accounted.refused

theorem fresh (limits : DownloadLimits) : Accounted limits { download := { limits := limits } } where
  limits := rfl
  sound := .fresh limits
  nextCounter := rfl
  received active := by cases active
  opened active := by cases active
  unopened _ := rfl

end Accounted

end DownloadRun

namespace Download

variable {download : Download} {calls : List DownloadCall} {call : DownloadCall}

theorem run_concat : download.run (calls ++ [call]) = (download.run calls).take call :=
  List.foldl_concat ..

/-- A refused call leaves a run with the download that it had. -/
theorem download_run_concat_of_error {fault : DownloadFault}
    (refused : ((download.run calls).download.call call).1 = .error fault) :
    (download.run (calls ++ [call])).download = (download.run calls).download := by
  have outcome : (download.run calls).download.call call =
      (.error fault, ((download.run calls).download.call call).2) := Prod.ext refused rfl
  rw [run_concat, DownloadRun.take, outcome]
  exact eq_of_call_eq_error outcome

/-- Any sequence of calls on a fresh download. -/
theorem accounted_run (limits : DownloadLimits) (calls : List DownloadCall) :
    (Download.run { limits := limits } calls).Accounted limits := by
  induction calls using List.reverseRecOn with
  | nil => exact .fresh limits
  | append_singleton calls call inductionHypothesis =>
      rw [run_concat]
      exact inductionHypothesis.take call

/-- Whatever calls are made on a fresh download, its counter is that of the blocks granted since the
last opening, zero left out.  While it is active it holds exactly these blocks, within what was
announced and inside the flash window; otherwise it holds nothing.  A refused call leaves it as it
was. -/
theorem calls_accounted (limits : DownloadLimits) (calls : List DownloadCall) :
    let run := Download.run { limits := limits } calls
    let blocks := blocksSinceOpening run.journal
    run.download.nextCounter.toNat = 1 + blocks.length % 255 ∧
      run.download.nextCounter ≠ 0 ∧
      ((∀ answered ∈ run.journal, answered.opens = false) → blocks = []) ∧
      (run.download.isActive = true →
        0 < run.download.total.toNat ∧
          run.download.received = blocks.flatten ∧
          run.download.received.length = run.download.transferred.toNat ∧
          run.download.transferred.toNat ≤ run.download.total.toNat ∧
          run.download.state =
            (if run.download.transferred = run.download.total then .awaitingExit
              else .downloading) ∧
          limits.flashBase.toNat ≤ run.download.address.toNat ∧
          run.download.address.toNat + run.download.total.toNat ≤
            limits.flashBase.toNat + limits.flashSize.toNat) ∧
      (run.download.isActive = false → run.download.received = []) ∧
      ∀ call fault, (run.download.call call).1 = .error fault →
        (Download.run { limits := limits } (calls ++ [call])).download = run.download := by
  intro run blocks
  have accounted := accounted_run limits calls
  have counter : run.download.nextCounter.toNat = 1 + blocks.length % 255 := by
    rw [accounted.nextCounter, toNat_blockCounter, Nat.add_comm]
  refine ⟨counter, ?_, accounted.unopened, ?_, accounted.sound.inactive, ?_⟩
  · intro zero
    rw [zero, UInt8.toNat_zero] at counter
    omega
  · intro active
    have progress := accounted.sound.active active
    obtain ⟨positive, above, below⟩ := progress.window
    rw [accounted.limits] at above below
    refine ⟨positive, accounted.received active, progress.counted.symm, ?_,
      progress.state_eq active, above, below⟩
    rw [progress.counted]
    exact progress.bounded
  · intro call fault refused
    exact download_run_concat_of_error refused

/-- The counter leaves zero out: the block after the 255th carries 1 again. -/
example :
    (Download.run { limits := {} }
      (.request 0 0 512 :: (List.range 256).map fun index =>
        .receive (blockCounter index) [0])).download.nextCounter = 2 := by
  decide +kernel

end Download

end DiagnosticGateway
