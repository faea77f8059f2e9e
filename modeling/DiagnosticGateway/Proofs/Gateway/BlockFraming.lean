/-
Module: DiagnosticGateway.Proofs.Gateway.BlockFraming
Purpose: Which blocks of the negotiated length get through the framer.
Main exports:
  blockFrame, GatewayConfig.framer, GatewayConfig.FramesBlocks, GatewayOutput.Negotiates,
  DownloadStep.negotiated, negotiated_blocks_framed
-/
import DiagnosticGateway.Proofs.Frame.Front
import DiagnosticGateway.Proofs.Gateway.OpenDownload
import DiagnosticGateway.Proofs.Gateway.Served

/-!
Two settings bound a block.  The response to a download request names the longest block that is
taken, and the framer of the stream names the largest payload that is let through.  A payload is
longer than its block by two addresses, the service and the counter, six bytes in all; and the two
settings are checked apart from each other.
-/

namespace DiagnosticGateway

/-! ## Blocks on the wire -/

/-- The frame in which a block is sent. -/
def blockFrame (source target : UInt16) (counter : UInt8) (block : Octets) : Frame :=
  DiagnosticMessage.toFrame
    { source := source
      target := target
      userData := Service.transferData :: counter :: block }

/-- Addresses, service and counter come on top of a block. -/
@[simp] theorem length_payload_blockFrame (source target : UInt16) (counter : UInt8)
    (block : Octets) :
    (blockFrame source target counter block).payload.length = block.length + 6 := by
  simp only [blockFrame, DiagnosticMessage.toFrame, DiagnosticMessage.toOctets, Frame.ofPayload,
    List.length_append, Octets.length_ofWord16, List.length_cons]
  omega

/-- A block is handed out in its frame or refused as too large, as its length says. -/
theorem Framer.next_encode_blockFrame (framer : Framer) (source target : UInt16) (counter : UInt8)
    {longest : UInt16} {block : Octets} (named : block.length ≤ longest.toNat) (rest : Octets) :
    framer.next ((blockFrame source target counter block).encode ++ rest) =
      if block.length + 6 ≤ framer.limit.toNat then
        .frame (blockFrame source target counter block) rest
      else .fault (.payloadTooLarge (UInt32.ofNat (block.length + 6)) framer.limit) := by
  have length := length_payload_blockFrame source target counter block
  -- The length field has room for every block whose length can be named.
  have fits : (blockFrame source target counter block).payload.length < UInt32.size := by
    have bound := longest.toNat_lt
    rw [length, UInt32.size]
    omega
  have canonical : (blockFrame source target counter block).payloadType.IsCanonical := rfl
  rw [next_encode_append (by decide : (0xFD : UInt8) = 0xFF ^^^ 0x02) canonical fits rest,
    Frame.lengthField_eq fits, length]

/-! ## Negotiation -/

/-- An output grants a download and names the longest block that is taken. -/
def GatewayOutput.Negotiates (output : GatewayOutput) (longest : UInt16) : Prop :=
  Service.positiveResponse Service.requestDownload (0x20 :: Octets.ofWord16 longest) ∈
    output.replies

theorem GatewayOutput.Negotiates.grants {output : GatewayOutput} {longest : UInt16}
    (negotiates : output.Negotiates longest) : output.grants Service.requestDownload = true :=
  List.any_eq_true.mpr ⟨_, negotiates, by simp [Service.positiveResponse]⟩

/-- The length that is named is the one in the settings of downloads. -/
theorem DownloadStep.negotiated {gateway next : Gateway} {input : GatewayInput}
    {output : GatewayOutput} {longest : UInt16} (step : DownloadStep gateway input output next)
    (negotiates : output.Negotiates longest) :
    longest = gateway.download.limits.maxBlockLength := by
  have granted := negotiates.grants
  unfold GatewayOutput.Negotiates at negotiates
  -- Only the opening of a download is answered by a positive response of this service.
  cases step with
  | quiet _ _ _ _ _ ungranted | aborted _ _ _ _ _ _ ungranted
  | sessionEnded _ _ _ _ _ _ ungranted | activated _ _ _ _ _ _ _ ungranted =>
      rw [ungranted Service.requestDownload (by decide)] at granted
      cases granted
  | reset => cases negotiates
  | received _ _ _ _ _ replies | completed _ _ _ _ _ _ replies =>
      rw [replies, List.mem_singleton] at negotiates
      cases negotiates
  | headerRefused _ _ _ _ _ _ _ replies | packageRefused _ _ _ _ _ _ _ replies =>
      rw [replies, List.mem_singleton] at negotiates
      cases negotiates
  | opened _ _ _ _ _ replies =>
      rw [replies, List.mem_singleton] at negotiates
      simp only [Service.positiveResponse, List.cons.injEq, true_and] at negotiates
      exact Octets.ofWord16_inj.mp negotiates

/-! ## Both limits -/

/-- The framer of a connection with these settings. -/
def GatewayConfig.framer (config : GatewayConfig) : Framer :=
  { limit := config.framing.maxPayloadLength }

/-- A connection with these settings hands out every block up to the given length. -/
def GatewayConfig.FramesBlocks (config : GatewayConfig) (longest : UInt16) : Prop :=
  ∀ source target counter block, 1 ≤ block.length → block.length ≤ longest.toNat →
    config.framer.next (blockFrame source target counter block).encode =
      .frame (blockFrame source target counter block) []

/-- All blocks are handed out if the longest of them is. -/
theorem GatewayConfig.framesBlocks_iff {config : GatewayConfig} {longest : UInt16}
    (some : longest ≠ 0) :
    config.FramesBlocks longest ↔ longest.toNat + 6 ≤ config.framing.maxPayloadLength.toNat := by
  have positive : 1 ≤ longest.toNat :=
    Nat.one_le_iff_ne_zero.mpr fun zero => some (UInt16.toNat_inj.mp zero)
  constructor
  · intro frames
    have length : (List.replicate longest.toNat (0 : UInt8)).length = longest.toNat :=
      List.length_replicate
    have handedOut := frames 0 0 1 (List.replicate longest.toNat 0)
      (le_of_le_of_eq positive length.symm) (Nat.le_of_eq length)
    rw [← List.append_nil (blockFrame ..).encode,
      Framer.next_encode_blockFrame _ _ _ _ (Nat.le_of_eq length)] at handedOut
    split at handedOut
    · rename_i fits
      rwa [length] at fits
    · cases handedOut
  · intro fits source target counter block _ negotiated
    have within : block.length + 6 ≤ config.framer.limit.toNat :=
      Nat.le_trans (Nat.add_le_add_right negotiated 6) fits
    rw [← List.append_nil (blockFrame ..).encode,
      Framer.next_encode_blockFrame _ _ _ _ negotiated, if_pos within]

/-- Whether a negotiated block gets through depends on its length and on the largest payload alone:
with six more bytes it has to be within that limit, and is refused as too large otherwise.  So all
negotiated blocks get through exactly if the longest block in the settings does. -/
theorem negotiated_blocks_framed {config : GatewayConfig} {history : List Exchange}
    {gateway : Gateway} {input : GatewayInput} {longest : UInt16}
    (reached : Reaches config history gateway)
    (negotiates : (gateway.step input).1.Negotiates longest) :
    longest = config.download.limits.maxBlockLength ∧
    (∀ source target counter block rest, 1 ≤ block.length → block.length ≤ longest.toNat →
      config.framer.next ((blockFrame source target counter block).encode ++ rest) =
        if block.length + 6 ≤ config.framing.maxPayloadLength.toNat then
          .frame (blockFrame source target counter block) rest
        else
          .fault (.payloadTooLarge (UInt32.ofNat (block.length + 6))
            config.framing.maxPayloadLength)) ∧
    (config.FramesBlocks longest ↔
      config.download.limits.maxBlockLength.toNat + 6 ≤
        config.framing.maxPayloadLength.toNat) := by
  have longestEq : longest = config.download.limits.maxBlockLength := by
    rw [← reached.settings.2]
    exact (downloadStep_step gateway input).negotiated negotiates
  have some : longest ≠ 0 := by
    rw [longestEq]
    exact ((GatewayConfig.valid_iff config).mp reached.valid).1
  refine ⟨longestEq, ?_, ?_⟩
  · intro source target counter block rest _ negotiated
    exact config.framer.next_encode_blockFrame source target counter negotiated rest
  · rw [← longestEq]
    exact GatewayConfig.framesBlocks_iff some

/-! ## A download of one block -/

/-- Settings that limit the largest payload. -/
def sampleConfig (limit : UInt32) : GatewayConfig := { framing := { maxPayloadLength := limit } }

/-- The gateway of these settings after the tester `0x0E00` has activated routing. -/
def sampleActivated (limit : UInt32) : Gateway :=
  ((Gateway.ofConfig (sampleConfig limit)).run [sampleActivation]).2

/-- The tester `0x0E00` opens a download of 1024 bytes. -/
def sampleDownloadRequest : GatewayInput :=
  sampleRequest [0x34, 0x00, 0x22, 0x00, 0x00, 0x04, 0x00]

theorem reaches_sampleActivated (limit : UInt32) :
    Reaches (sampleConfig limit)
      ((Gateway.ofConfig (sampleConfig limit)).history [sampleActivation])
      (sampleActivated limit) :=
  reaches_iff_run.mpr ⟨_, _, rfl, rfl, rfl⟩

theorem negotiates_sampleDownloadRequest (limit : UInt32) :
    ((sampleActivated limit).step sampleDownloadRequest).1.Negotiates 1024 := by
  have carried : sampleDownloadRequest.request? =
      some
        { source := 0x0E00, target := 0x0100, request := .requestDownload 0x00 0x0000 0x0400 } := by
    decide
  have asks : Asks (sampleActivated limit) sampleDownloadRequest 0x0E00
      (.requestDownload 0x00 0x0000 0x0400) := ⟨carried, rfl⟩
  have fits : (sampleActivated limit).download.limits.Contains 0x0000 0x0400 :=
    (by decide : DownloadLimits.Contains {} 0x0000 0x0400)
  have opened := asks.opens (Download.request_eq_ok_iff.mpr ⟨rfl, fits, rfl, rfl⟩)
  unfold GatewayOutput.Negotiates
  rw [opened.replies]
  exact List.mem_singleton.mpr rfl

/-- With the largest payload that is set if nothing else is said, all negotiated blocks get
through. -/
theorem negotiated_blocks_framed_sample :
    ∃ history gateway input, Reaches (sampleConfig 65536) history gateway ∧
      (gateway.step input).1.Negotiates 1024 ∧ (sampleConfig 65536).FramesBlocks 1024 := by
  have reached := reaches_sampleActivated 65536
  have negotiates := negotiates_sampleDownloadRequest 65536
  obtain ⟨-, -, frames⟩ := negotiated_blocks_framed reached negotiates
  exact ⟨_, _, _, reached, negotiates, frames.mpr (by decide)⟩

/-- A negotiated block need not get through: if 1024 bytes are the longest block and the largest
payload, too, then a block of that length makes a payload of 1030 bytes and is refused. -/
theorem negotiated_block_outgrows_framer :
    ¬∀ (config : GatewayConfig) (history : List Exchange) (gateway : Gateway)
        (input : GatewayInput) (longest : UInt16), Reaches config history gateway →
        (gateway.step input).1.Negotiates longest → config.FramesBlocks longest := by
  intro claimed
  have frames := claimed (sampleConfig 1024) _ _ sampleDownloadRequest 1024
    (reaches_sampleActivated 1024) (negotiates_sampleDownloadRequest 1024)
  have length : (List.replicate 1024 (0 : UInt8)).length = 1024 := List.length_replicate
  have named : (List.replicate 1024 (0 : UInt8)).length ≤ (1024 : UInt16).toNat :=
    Nat.le_of_eq length
  have handedOut := frames 0x0E00 0x0100 0x01 (List.replicate 1024 0) (by rw [length]; decide) named
  have exceeds : ¬(List.replicate 1024 (0 : UInt8)).length + 6 ≤
      (sampleConfig 1024).framer.limit.toNat := by
    rw [length]
    decide
  rw [← List.append_nil (blockFrame ..).encode,
    Framer.next_encode_blockFrame _ _ _ _ named, if_neg exceeds] at handedOut
  cases handedOut

end DiagnosticGateway
