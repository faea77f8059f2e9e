/-
Module: DiagnosticGateway.Proofs.Gateway.OpenDownload
Purpose: What a history says about the download that is under way.
Main exports:
  Exchange.Opens, Exchange.Uneventful, OpenSince, acceptedBlocks, Tracks, Tracked,
  Reaches.settings, Reaches.sound, Reaches.tracked
-/
import DiagnosticGateway.Proofs.Gateway.DownloadStep

/-!
The download of a gateway is determined by the history since its opening: who opened it, with which
address and size, and which blocks were granted after that.  `Tracks` states this as a relation
between a gateway and its history, and `Reaches.tracked` says that it holds in every gateway that a
connection can come to.  Every step that would break it also ends the download.
-/

namespace DiagnosticGateway

/-! ## Reading a history -/

/-- In an exchange a tester opens a download. -/
structure Exchange.Opens (exchange : Exchange) (tester : UInt16) (address size : UInt32) :
    Prop where
  asked : ∃ target dataFormat, exchange.input.request? =
    some
      { source := tester
        target := target
        request := .requestDownload dataFormat address size }
  granted : exchange.output.grants Service.requestDownload = true
  events : exchange.output.transferEvents = [.transferStarted address size]

/-- In an exchange no download is opened or ended. -/
structure Exchange.Uneventful (exchange : Exchange) : Prop where
  noReset : exchange.input ≠ .reset
  events : exchange.output.transferEvents = []

/-- The last thing that happened to downloads in a history is that a tester opened one; `between` is
what came after. -/
structure OpenSince (history between : List Exchange) (tester : UInt16)
    (address size : UInt32) : Prop where
  opening : ∃ prior opening, history = prior ++ opening :: between ∧
    opening.Opens tester address size
  uneventful : ∀ exchange ∈ between, exchange.Uneventful

namespace OpenSince

variable {history between : List Exchange} {exchange : Exchange} {tester : UInt16}
  {address size : UInt32}

theorem opened (opens : exchange.Opens tester address size) :
    OpenSince (history ++ [exchange]) [] tester address size :=
  ⟨⟨history, exchange, rfl, opens⟩, by simp⟩

theorem append (since : OpenSince history between tester address size)
    (uneventful : exchange.Uneventful) :
    OpenSince (history ++ [exchange]) (between ++ [exchange]) tester address size := by
  obtain ⟨prior, opening, rfl, opens⟩ := since.opening
  refine ⟨⟨prior, opening, by simp, opens⟩, ?_⟩
  intro other member
  rcases List.mem_append.mp member with old | new
  · exact since.uneventful other old
  · rw [List.mem_singleton.mp new]
    exact uneventful

end OpenSince

/-- A block of a download with its sender. -/
structure SentBlock where
  source : UInt16
  counter : UInt8
  data : Octets
deriving DecidableEq

/-- The block that an exchange sends, if it was granted. -/
def Exchange.acceptedBlock? (exchange : Exchange) : Option SentBlock :=
  match exchange.input.request? with
  | some { source, request := .transferData counter data, .. } =>
      if exchange.output.grants Service.transferData then
        some { source := source, counter := counter, data := data }
      else none
  | _ => none

/-- The blocks that were granted in a history, in order. -/
def acceptedBlocks (history : List Exchange) : List SentBlock :=
  history.filterMap Exchange.acceptedBlock?

theorem Exchange.acceptedBlock?_of_ungranted {exchange : Exchange}
    (ungranted : exchange.output.Ungranted) : exchange.acceptedBlock? = none := by
  have refused := ungranted Service.transferData (by decide)
  unfold acceptedBlock?
  split
  · simp [refused]
  · rfl

theorem acceptedBlocks_append_of_none {history : List Exchange} {exchange : Exchange}
    (none : exchange.acceptedBlock? = none) :
    acceptedBlocks (history ++ [exchange]) = acceptedBlocks history := by
  simp [acceptedBlocks, none]

theorem acceptedBlocks_append_of_some {history : List Exchange} {exchange : Exchange}
    {block : SentBlock} (accepted : exchange.acceptedBlock? = some block) :
    acceptedBlocks (history ++ [exchange]) = acceptedBlocks history ++ [block] := by
  simp [acceptedBlocks, accepted]

/-! ## The settings and the download -/

namespace DownloadStep

variable {gateway next : Gateway} {input : GatewayInput} {output : GatewayOutput}

theorem config (step : DownloadStep gateway input output next) :
    next.config = gateway.config := by
  cases step with
  | quiet _ session => exact session.config
  | opened _ session => exact session.config
  | received _ session => exact session.config
  | headerRefused _ session => exact session.config
  | completed _ session => exact session.config
  | packageRefused _ session => exact session.config
  | aborted _ _ config => exact config
  | sessionEnded _ _ config => exact config
  | activated _ _ config => exact config
  | reset => rfl

theorem limits (step : DownloadStep gateway input output next)
    (limits : gateway.download.limits = gateway.config.download.limits) :
    next.download.limits = next.config.download.limits := by
  rw [step.config, ← limits]
  cases step with
  | quiet _ _ download => rw [download]
  | opened _ _ download =>
      obtain ⟨-, -, -, opened⟩ := Download.request_eq_ok_iff.mp download
      rw [opened]
  | received _ _ download =>
      obtain ⟨-, -, -, -, -, -, extended⟩ := Download.receive_eq_ok_iff.mp download
      rw [extended]
      rfl
  | headerRefused _ _ received _ download =>
      obtain ⟨-, -, -, -, -, -, extended⟩ := Download.receive_eq_ok_iff.mp received
      rw [download, extended]
      rfl
  | completed _ _ download =>
      obtain ⟨-, -, closed⟩ := Download.exit_eq_ok_iff.mp download
      rw [closed]
  | packageRefused _ _ exit _ download =>
      obtain ⟨-, -, closed⟩ := Download.exit_eq_ok_iff.mp exit
      rw [download, closed]
      rfl
  | aborted _ _ _ download =>
      rw [download]
      rfl
  | sessionEnded _ _ _ download => rw [download]
  | activated _ _ _ _ download => rw [download]
  | reset => exact limits.symm

theorem sound (step : DownloadStep gateway input output next)
    (sound : gateway.download.Sound) : next.download.Sound := by
  cases step with
  | quiet _ _ download => exact download ▸ sound
  | opened _ _ download => exact .request download
  | received _ _ download => exact sound.receive download
  | headerRefused _ _ _ _ download => exact download ▸ .abort _
  | completed _ _ download => exact .exit download
  | packageRefused _ _ _ _ download => exact download ▸ .abort _
  | aborted _ _ _ download => exact download ▸ .abort _
  | sessionEnded _ _ _ download => exact download ▸ sound
  | activated _ _ _ _ download => exact download ▸ sound
  | reset => exact .fresh _

end DownloadStep

/-! ## The download under way -/

/-- The download under way is the one that `tester` opened before `between`, filled with the blocks
that were granted to that tester since. -/
structure Tracks (gateway : Gateway) (history between : List Exchange) (tester : UInt16) :
    Prop where
  since : OpenSince history between tester gateway.download.address gateway.download.total
  owner : gateway.routing.accepts tester = true
  received : gateway.download.received = (acceptedBlocks between).flatMap SentBlock.data
  nextCounter : gateway.download.nextCounter =
    Download.blockCounter (acceptedBlocks between).length
  counters : (acceptedBlocks between).map SentBlock.counter =
    (List.range (acceptedBlocks between).length).map Download.blockCounter
  sources : ∀ block ∈ acceptedBlocks between, block.source = tester

/-- A download is under way only if the history says which. -/
def Tracked (gateway : Gateway) (history : List Exchange) : Prop :=
  gateway.download.isActive = true → ∃ between tester, Tracks gateway history between tester

namespace Tracks

variable {gateway next : Gateway} {history between : List Exchange} {tester : UInt16}
  {input : GatewayInput} {output : GatewayOutput}

/-- An exchange that leaves the download and its owner alone is tracked. -/
theorem append (tracks : Tracks gateway history between tester)
    (noReset : input ≠ .reset) (owner : next.routing.accepts tester = true)
    (download : next.download = gateway.download) (events : output.transferEvents = [])
    (ungranted : output.Ungranted) :
    Tracks next (history ++ [⟨input, output⟩]) (between ++ [⟨input, output⟩]) tester := by
  have blocks : acceptedBlocks (between ++ [⟨input, output⟩]) = acceptedBlocks between :=
    acceptedBlocks_append_of_none (Exchange.acceptedBlock?_of_ungranted ungranted)
  obtain ⟨since, -, received, nextCounter, counters, sources⟩ := tracks
  refine ⟨?_, owner, ?_, ?_, ?_, ?_⟩
  · rw [download]
    exact since.append ⟨noReset, events⟩
  · rw [blocks, download, received]
  · rw [blocks, download, nextCounter]
  · rw [blocks, counters]
  · rw [blocks]
    exact sources

/-- The opening of a download is tracked. -/
theorem opened {dataFormat : UInt8} {address size : UInt32} {maxBlockLength : UInt16}
    (asks : Asks gateway input tester (.requestDownload dataFormat address size))
    (owner : next.routing.accepts tester = true)
    (download : gateway.download.request dataFormat address size =
      (.ok maxBlockLength, next.download))
    (events : output.transferEvents = [.transferStarted address size])
    (granted : output.grants Service.requestDownload = true) :
    Tracks next (history ++ [⟨input, output⟩]) [] tester := by
  obtain ⟨-, -, -, fresh⟩ := Download.request_eq_ok_iff.mp download
  have opens : Exchange.Opens ⟨input, output⟩ tester
      next.download.address next.download.total := by
    rw [fresh]
    exact ⟨⟨_, _, asks.carried⟩, granted, events⟩
  refine ⟨.opened opens, owner, ?_, ?_, rfl, by simp [acceptedBlocks]⟩
  · rw [fresh]
    rfl
  · rw [fresh]
    rfl

/-- A granted block is tracked. -/
theorem received_block {counter : UInt8} {block : Octets} {receipt : BlockReceipt}
    (tracks : Tracks gateway history between tester)
    (asks : Asks gateway input tester (.transferData counter block))
    (owner : next.routing.accepts tester = true)
    (download : gateway.download.receive counter block = (.ok receipt, next.download))
    (events : output.transferEvents = [])
    (granted : output.grants Service.transferData = true) :
    Tracks next (history ++ [⟨input, output⟩]) (between ++ [⟨input, output⟩]) tester := by
  obtain ⟨-, -, -, expected, -, -, extended⟩ := Download.receive_eq_ok_iff.mp download
  obtain ⟨since, -, received, nextCounter, counters, sources⟩ := tracks
  have accepted : Exchange.acceptedBlock? ⟨input, output⟩ =
      some { source := tester, counter := counter, data := block } := by
    simp [Exchange.acceptedBlock?, asks.carried, granted]
  have blocks : acceptedBlocks (between ++ [⟨input, output⟩]) = acceptedBlocks between ++ [_] :=
    acceptedBlocks_append_of_some accepted
  refine ⟨?_, owner, ?_, ?_, ?_, ?_⟩
  · rw [extended]
    exact since.append ⟨asks.noReset, events⟩
  · rw [blocks, extended]
    simp [Download.extend, received]
  · rw [blocks, extended]
    simp [Download.extend, nextCounter]
  · rw [blocks, List.map_append, counters, List.length_append, List.length_singleton,
      List.range_succ, List.map_append, List.map_singleton, List.map_singleton, expected,
      nextCounter]
  · rw [blocks]
    intro other member
    rcases List.mem_append.mp member with old | new
    · exact sources other old
    · rw [List.mem_singleton.mp new]

end Tracks

theorem SameSession.accepts {gateway next : Gateway} (session : SameSession gateway next)
    (source : UInt16) : next.routing.accepts source = gateway.routing.accepts source := by
  simp [Routing.accepts, Routing.isActive, session.state, session.peer]

/-- Every step keeps track of the download. -/
theorem DownloadStep.tracked {gateway next : Gateway} {input : GatewayInput}
    {output : GatewayOutput} {history : List Exchange}
    (step : DownloadStep gateway input output next) (tracked : Tracked gateway history) :
    Tracked next (history ++ [⟨input, output⟩]) := by
  intro active
  cases step with
  | quiet noReset session download _ events ungranted =>
      rw [download] at active
      obtain ⟨between, tester, tracks⟩ := tracked active
      have owner := (session.accepts tester).trans tracks.owner
      exact ⟨_, _, tracks.append noReset owner download events ungranted⟩
  | opened asks session download _ events replies =>
      have owner := (session.accepts _).trans asks.accepted
      exact ⟨_, _, .opened asks owner download events (GatewayOutput.grants_of_positive replies)⟩
  | @received _ _ _ sender _ _ _ asks session download _ events replies =>
      have before := (Download.receive_eq_ok_iff.mp download).1
      obtain ⟨between, tester, tracks⟩ := tracked before
      have same : sender = tester := Routing.accepts_unique tracks.owner asks.accepted
      subst same
      have owner := (session.accepts sender).trans tracks.owner
      exact ⟨_, _, tracks.received_block asks owner download events
        (GatewayOutput.grants_of_positive replies)⟩
  | headerRefused _ _ _ _ download =>
      rw [download] at active
      cases active
  | completed _ _ download =>
      obtain ⟨-, -, closed⟩ := Download.exit_eq_ok_iff.mp download
      rw [closed] at active
      cases active
  | packageRefused _ _ _ _ download =>
      rw [download] at active
      cases active
  | aborted _ _ _ download =>
      rw [download] at active
      cases active
  | sessionEnded _ inactive _ download =>
      rw [download, inactive] at active
      cases active
  | @activated _ _ _ claimant noReset alone _ accepts download _ events ungranted =>
      rw [download] at active
      obtain ⟨between, tester, tracks⟩ := tracked active
      have same : tester = claimant := alone tester tracks.owner
      subst same
      exact ⟨_, _, tracks.append noReset accepts download events ungranted⟩
  | reset => cases active

/-! ## Every gateway that a connection can come to -/

namespace Reaches

variable {config : GatewayConfig} {history : List Exchange} {gateway : Gateway}

theorem settings (reached : Reaches config history gateway) :
    gateway.config = config ∧ gateway.download.limits = config.download.limits := by
  induction reached with
  | start started =>
      obtain ⟨-, rfl⟩ := Gateway.start?_eq_ok_iff.mp started
      exact ⟨rfl, rfl⟩
  | @step history gateway reached input inductionHypothesis =>
      obtain ⟨configEq, limitsEq⟩ := inductionHypothesis
      have step := downloadStep_step gateway input
      have limits := step.limits (by rw [limitsEq, configEq])
      have settings := step.config.trans configEq
      exact ⟨settings, limits.trans (by rw [settings])⟩

theorem valid (reached : Reaches config history gateway) : config.Valid := by
  induction reached with
  | start started => exact (Gateway.start?_eq_ok_iff.mp started).1
  | step reached input inductionHypothesis => exact inductionHypothesis

theorem sound (reached : Reaches config history gateway) : gateway.download.Sound := by
  induction reached with
  | start started =>
      obtain ⟨-, rfl⟩ := Gateway.start?_eq_ok_iff.mp started
      exact .fresh _
  | step reached input inductionHypothesis =>
      exact (downloadStep_step _ input).sound inductionHypothesis

theorem tracked (reached : Reaches config history gateway) : Tracked gateway history := by
  induction reached with
  | start started =>
      obtain ⟨-, rfl⟩ := Gateway.start?_eq_ok_iff.mp started
      intro active
      cases active
  | step reached input inductionHypothesis =>
      exact (downloadStep_step _ input).tracked inductionHypothesis

end Reaches

end DiagnosticGateway
