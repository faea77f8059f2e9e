/-
Module: DiagnosticGateway.Proofs.Gateway.Reassembly
Purpose: A delivered image is the blocks that were granted, and nothing else.
Main exports:
  completed_image_reassembled
-/
import DiagnosticGateway.Proofs.Gateway.OpenDownload

namespace DiagnosticGateway

namespace DownloadStep

variable {gateway next : Gateway} {input : GatewayInput} {output : GatewayOutput}
  {image : DownloadedImage} {package : Option VerifiedPackage}

/-- An image is delivered only by the exit of a download that waits for it. -/
theorem exit_of_completed (step : DownloadStep gateway input output next)
    (completed : .transferCompleted image package ∈ output.events) :
    gateway.download.state = .awaitingExit ∧
      image = { address := gateway.download.address, data := gateway.download.received } ∧
      gateway.verdict image = .ok package ∧
      output.transferEvents = [.transferCompleted image package] := by
  have member : .transferCompleted image package ∈ output.transferEvents :=
    List.mem_filter.mpr ⟨completed, rfl⟩
  cases step with
  | quiet _ _ _ _ events => simp [events] at member
  | opened _ _ _ _ events => simp [events] at member
  | received _ _ _ _ events => simp [events] at member
  | headerRefused _ _ _ _ _ _ events => simp [events] at member
  | completed _ _ download verified _ events =>
      simp only [events, List.mem_singleton, GatewayEvent.transferCompleted.injEq] at member
      obtain ⟨rfl, rfl⟩ := member
      obtain ⟨awaiting, imageEq, -⟩ := Download.exit_eq_ok_iff.mp download
      exact ⟨awaiting, imageEq, verified, events⟩
  | packageRefused _ _ _ _ _ _ events => simp [events] at member
  | aborted loses _ _ _ _ events =>
      simp only [events, List.mem_cons, reduceCtorEq, List.not_mem_nil, or_false,
        false_or] at completed
      have report := loses.isTransfer_event
      rw [← completed] at report
      cases report
  | sessionEnded _ _ _ _ _ events => simp [events] at member
  | activated _ _ _ _ _ _ events => simp [events] at member
  | reset => cases completed

end DownloadStep

/-- An image is delivered only for the download that was opened last and not ended since.  It has the
announced size and lies in the flash window.  Its bytes are the blocks that were granted since the
opening, in order; they are counted from one, and the tester that opened the download sent all of
them. -/
theorem completed_image_reassembled {config : GatewayConfig} {history : List Exchange}
    {gateway : Gateway} (reached : Reaches config history gateway) {input : GatewayInput}
    {image : DownloadedImage} {package : Option VerifiedPackage}
    (completed : .transferCompleted image package ∈ (gateway.step input).1.events) :
    ∃ between tester size,
      OpenSince history between tester image.address size ∧
      (gateway.step input).1.transferEvents = [.transferCompleted image package] ∧
      image.data.length = size.toNat ∧
      image.data = (acceptedBlocks between).flatMap SentBlock.data ∧
      (acceptedBlocks between).map SentBlock.counter =
        (List.range (acceptedBlocks between).length).map Download.blockCounter ∧
      (∀ block ∈ acceptedBlocks between, block.source = tester) ∧
      config.download.limits.flashBase.toNat ≤ image.address.toNat ∧
      image.address.toNat + image.data.length ≤
        config.download.limits.flashBase.toNat + config.download.limits.flashSize.toNat := by
  obtain ⟨awaiting, rfl, -, events⟩ := (downloadStep_step gateway input).exit_of_completed completed
  have active := Download.isActive_of_awaitingExit awaiting
  obtain ⟨between, tester, tracks⟩ := reached.tracked active
  have progress := reached.sound.active active
  have complete := progress.awaiting.mp awaiting
  obtain ⟨-, above, below⟩ := progress.window
  rw [reached.settings.2] at above below
  rw [← complete] at below
  exact ⟨between, tester, gateway.download.total, tracks.since, events, complete, tracks.received,
    tracks.counters, tracks.sources, above, below⟩

/-- A download of three bytes in two blocks, with a block between them whose counter is wrong. -/
def sampleDownload : List GatewayInput :=
  [sampleActivation, sampleRequest [0x34, 0x00, 0x11, 0x10, 0x03],
    sampleRequest [0x36, 0x01, 0xAA, 0xBB], sampleRequest [0x36, 0x07, 0xDD],
    sampleRequest [0x36, 0x02, 0xCC]]

/-- Settings under which images are not checked. -/
def uncheckedConfig : GatewayConfig := { download := { verifyPackage := false } }

theorem completed_image_reassembled_sample :
    ∃ gateway,
      Reaches uncheckedConfig ((Gateway.ofConfig uncheckedConfig).history sampleDownload) gateway ∧
      ∃ between tester size,
        OpenSince ((Gateway.ofConfig uncheckedConfig).history sampleDownload) between tester
          0x10 size ∧
        [0xAA, 0xBB, 0xCC] = (acceptedBlocks between).flatMap SentBlock.data := by
  have reached : Reaches uncheckedConfig
      ((Gateway.ofConfig uncheckedConfig).history sampleDownload)
      ((Gateway.ofConfig uncheckedConfig).run sampleDownload).2 :=
    reaches_iff_run.mpr ⟨_, _, rfl, rfl, rfl⟩
  have events : (((Gateway.ofConfig uncheckedConfig).run sampleDownload).2.step
      (sampleRequest [0x37])).1.events =
        [.transferCompleted { address := 0x10, data := [0xAA, 0xBB, 0xCC] } none] := by
    rfl
  obtain ⟨between, tester, size, since, -, -, data, -⟩ :=
    completed_image_reassembled reached (events ▸ List.mem_singleton.mpr rfl)
  exact ⟨_, reached, between, tester, size, since, data⟩

end DiagnosticGateway
