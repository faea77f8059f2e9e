/-
Module: DiagnosticGateway.Proofs.Frame.Written
Purpose: Which of the frames that a framer writes it can read.
Main exports:
  Framer.writeAll, Framer.drain_writeAll_iff, Framer.drain_writeAll_of_large,
  written_frames_read_back, written_frame_refused
-/
import DiagnosticGateway.Proofs.Frame.Chunks

/-!
A framer reads with a limit and writes without one.  What it writes is the wire form of the frame,
whatever its length; so it reads back what it wrote exactly if the limit admits the frame.  A longer
frame goes out all the same, and whoever reads with that limit refuses it, together with all that was
written behind it.
-/

namespace DiagnosticGateway

namespace Framer

variable {framer : Framer} {frame : Frame} {frames : List Frame}

/-! ## A frame -/

/-- A payload beyond the limit is announced as longer than the limit, unless the limit is the largest
length that can be announced. -/
theorem limit_lt_lengthField (large : framer.limit.toNat < frame.payload.length)
    (bounded : framer.limit.toNat < 0xFFFFFFFF) : framer.limit < frame.lengthField := by
  have announced : frame.lengthField.toNat = min frame.payload.length 0xFFFFFFFF :=
    UInt32.toNat_ofNat_of_lt' (Nat.lt_succ_of_le (Nat.min_le_right _ _))
  rw [UInt32.lt_iff_toNat_lt, announced]
  exact Nat.lt_min.mpr ⟨large, bounded⟩

/-- A frame whose payload is beyond the limit is refused. -/
theorem next_encode_of_large (inverse : frame.inverse = 0xFF ^^^ frame.version)
    (canonical : frame.payloadType.IsCanonical)
    (large : framer.limit.toNat < frame.payload.length)
    (bounded : framer.limit.toNat < 0xFFFFFFFF) (rest : Octets) :
    framer.next (frame.encode ++ rest) =
      .fault (.payloadTooLarge frame.lengthField framer.limit) := by
  have wellFormed : frame.header.WellFormed := Frame.header_wellFormed inverse canonical
  have exceeds : framer.limit < frame.header.payloadLength := limit_lt_lengthField large bounded
  rw [Frame.encode_eq, List.append_assoc]
  exact next_of_violates (.payloadTooLarge wellFormed exceeds _)

/-! ## All frames of a connection -/

/-- Write frames one after the other. -/
def writeAll (framer : Framer) (frames : List Frame) : Octets := frames.foldl framer.write []

theorem writeAll_eq (framer : Framer) (frames : List Frame) :
    framer.writeAll frames = frames.flatMap Frame.encode := by
  suffices general : ∀ waiting, frames.foldl framer.write waiting =
      waiting ++ frames.flatMap Frame.encode by
    exact general []
  induction frames with
  | nil =>
      intro waiting
      rw [List.foldl_nil, List.flatMap_nil, List.append_nil]
  | cons frame frames inductionHypothesis =>
      intro waiting
      rw [List.foldl_cons, inductionHypothesis, write, List.flatMap_cons, List.append_assoc]

/-- Frames that the limit admits are handed out, and the work goes on behind them. -/
theorem drain_flatMap_append (admits : ∀ frame ∈ frames, framer.Admits frame) (rest : Octets) :
    framer.drain (frames.flatMap Frame.encode ++ rest) =
      { framer.drain rest with frames := frames ++ (framer.drain rest).frames } := by
  induction frames with
  | nil => rfl
  | cons frame frames inductionHypothesis =>
      obtain ⟨first, others⟩ := List.forall_mem_cons.mp admits
      rw [List.flatMap_cons, List.append_assoc, drain_of_frame (next_of_admits first _),
        inductionHypothesis others]
      rfl

/-- Only frames that the limit admits are handed out. -/
theorem admits_of_mem_drain {buffer : Octets} (member : frame ∈ (framer.drain buffer).frames) :
    framer.Admits frame := by
  fun_induction drain framer buffer with
  | case1 buffer found rest first later inductionHypothesis =>
      rcases List.mem_cons.mp member with rfl | behind
      · exact (next_eq_frame_iff.mp first).1
      · exact inductionHypothesis behind
  | case2 buffer waits => cases member
  | case3 buffer fault refused => cases member

/-- All frames that were written are read back exactly if the limit admits each of them. -/
theorem drain_writeAll_iff :
    framer.drain (framer.writeAll frames) = { frames := frames, rest := [], fault := none } ↔
      ∀ frame ∈ frames, framer.Admits frame := by
  constructor
  · intro drained frame member
    have handedOut : frame ∈ (framer.drain (framer.writeAll frames)).frames := by
      rw [drained]
      exact member
    exact admits_of_mem_drain handedOut
  · intro admits
    have whole := drain_flatMap_append admits []
    have ended : framer.drain [] = { frames := [], rest := [], fault := none } := drain_of_wait rfl
    rw [ended, List.append_nil, List.append_nil] at whole
    rw [writeAll_eq, whole]

/-- The first frame that is beyond the limit ends the reading, and what was written behind it is
lost. -/
theorem drain_writeAll_of_large {front back : List Frame}
    (admits : ∀ earlier ∈ front, framer.Admits earlier)
    (inverse : frame.inverse = 0xFF ^^^ frame.version)
    (canonical : frame.payloadType.IsCanonical)
    (large : framer.limit.toNat < frame.payload.length)
    (bounded : framer.limit.toNat < 0xFFFFFFFF) :
    framer.drain (framer.writeAll (front ++ frame :: back)) =
      { frames := front
        rest := (frame :: back).flatMap Frame.encode
        fault := some (.payloadTooLarge frame.lengthField framer.limit) } := by
  have refused := next_encode_of_large inverse canonical large bounded (back.flatMap Frame.encode)
  rw [writeAll_eq, List.flatMap_append, drain_flatMap_append admits, List.flatMap_cons,
    drain_of_fault refused, List.append_nil]

end Framer

/-- What a framer writes for a frame it reads back, and takes exactly these bytes, if and only if it
admits the frame; and so it is with all that it writes on a connection.  A frame that could be read
but for its length is written all the same: it ends the reading as too large, and what was written
behind it is not read.  (Only a limit at the largest length that can be announced refuses nothing.) -/
theorem written_frames_read_back (framer : Framer) :
    (∀ frame waiting, ∃ wire, framer.write waiting frame = waiting ++ wire ∧
      ∀ rest, framer.next (wire ++ rest) = .frame frame rest ↔ framer.Admits frame) ∧
    (∀ frames, framer.drain (framer.writeAll frames) =
        { frames := frames, rest := [], fault := none } ↔
      ∀ frame ∈ frames, framer.Admits frame) ∧
    ∀ front frame back, (∀ earlier ∈ front, framer.Admits earlier) →
      frame.inverse = 0xFF ^^^ frame.version → frame.payloadType.IsCanonical →
      framer.limit.toNat < frame.payload.length → framer.limit.toNat < 0xFFFFFFFF →
      framer.drain (framer.writeAll (front ++ frame :: back)) =
        { frames := front
          rest := (frame :: back).flatMap Frame.encode
          fault := some (.payloadTooLarge frame.lengthField framer.limit) } := by
  refine ⟨fun frame waiting => ⟨frame.encode, rfl, fun rest => ?_⟩, fun frames => ?_, ?_⟩
  · rw [Framer.next_eq_frame_iff]
    exact and_iff_left rfl
  · exact Framer.drain_writeAll_iff
  · intro front frame back admits inverse canonical large bounded
    exact Framer.drain_writeAll_of_large admits inverse canonical large bounded

/-- A diagnostic message with one byte of service data: five bytes of payload. -/
def sampleWrittenFrame : Frame := .ofPayload .diagnosticMessage [0x0E, 0x00, 0x01, 0x00, 0x22]

/-- With a limit of four bytes the message is written between two answers to alive checks, and only
the first answer is read. -/
theorem written_frames_read_back_sample :
    Framer.drain { limit := 4 }
        (Framer.writeAll { limit := 4 }
          [.ofPayload .aliveCheckResponse [0x0E, 0x00], sampleWrittenFrame,
            .ofPayload .aliveCheckResponse [0x0E, 0x01]]) =
      { frames := [.ofPayload .aliveCheckResponse [0x0E, 0x00]]
        rest := [0x02, 0xFD, 0x80, 0x01, 0x00, 0x00, 0x00, 0x05, 0x0E, 0x00, 0x01, 0x00, 0x22,
          0x02, 0xFD, 0x00, 0x08, 0x00, 0x00, 0x00, 0x02, 0x0E, 0x01]
        fault := some (.payloadTooLarge 5 4) } := by
  obtain ⟨-, -, stops⟩ := written_frames_read_back { limit := 4 }
  have admitted : ∀ earlier ∈ [Frame.ofPayload .aliveCheckResponse [0x0E, 0x00]],
      Framer.Admits { limit := 4 } earlier := by
    intro earlier member
    rw [List.mem_singleton.mp member]
    exact ⟨by decide, by decide, by decide⟩
  exact stops _ sampleWrittenFrame [.ofPayload .aliveCheckResponse [0x0E, 0x01]] admitted
    (by decide) (by decide) (by decide) (by decide)

/-- A framer need not read what it writes: a diagnostic message of five bytes is written with a limit
of four. -/
theorem written_frame_refused :
    ¬∀ (framer : Framer) (frame : Frame) (waiting : Octets),
        frame.inverse = 0xFF ^^^ frame.version → frame.payloadType.IsCanonical →
        ∃ wire, framer.write waiting frame = waiting ++ wire ∧
          framer.next wire = .frame frame [] := by
  intro claimed
  obtain ⟨wire, written, read⟩ :=
    claimed { limit := 4 } sampleWrittenFrame [] (by decide) (by decide)
  rw [Framer.write, List.append_cancel_left_eq] at written
  rw [← written] at read
  have refused : Framer.next { limit := 4 } sampleWrittenFrame.encode =
      .fault (.payloadTooLarge 5 4) := by
    decide
  rw [refused] at read
  cases read

end DiagnosticGateway
