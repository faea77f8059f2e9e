/-
Module: DiagnosticGateway.Proofs.Frame.Chunks
Purpose: A stream yields the same frames however it is cut into chunks.
Main exports:
  Framer.feed, Framer.drainChunks, Framer.feed_drain, chunked_stream_drains_whole
-/
import DiagnosticGateway.Proofs.Frame.Front

/-!
A stream does not come in frames.  Whatever a chunk ends with waits in the buffer for the next one.
What a look at a buffer has decided, a frame or a violation, is decided by bytes at the front, and
more bytes behind them do not undo it; so frames can be looked for as soon as bytes come in.
-/

namespace DiagnosticGateway

namespace Framer

/-! ## Chunks -/

/-- A chunk comes in after what was seen so far: it is put behind the bytes left over, and frames
are looked for until more bytes are needed or a violation is met. -/
def feed (framer : Framer) (seen : Drained) (chunk : Octets) : Drained :=
  let later := framer.drain (seen.rest ++ chunk)
  { later with frames := seen.frames ++ later.frames }

/-- Chunks come in one by one. -/
def drainChunks (framer : Framer) (chunks : List Octets) : Drained :=
  chunks.foldl framer.feed { frames := [], rest := [], fault := none }

variable {framer : Framer} {buffer rest : Octets} {frame : Frame} {fault : FramingFault}

/-! ## More bytes -/

/-- A frame that was found is found with more bytes behind it. -/
theorem next_append_of_frame (found : framer.next buffer = .frame frame rest) (more : Octets) :
    framer.next (buffer ++ more) = .frame frame (rest ++ more) := by
  obtain ⟨admits, rfl⟩ := next_eq_frame_iff.mp found
  rw [List.append_assoc]
  exact next_of_admits admits (rest ++ more)

/-- A violation is one whatever comes behind it. -/
theorem Violates.append (violates : framer.Violates buffer fault) (more : Octets) :
    framer.Violates (buffer ++ more) fault := by
  cases violates with
  | @versionMismatch version inverse tail whole mismatch =>
      have longer : 6 ≤ (tail ++ more).length := by
        rw [List.length_append]
        exact Nat.le_add_right_of_le whole
      exact .versionMismatch longer mismatch
  | payloadTooLarge wellFormed large body =>
      rw [List.append_assoc]
      exact .payloadTooLarge wellFormed large (body ++ more)

theorem next_append_of_fault (refused : framer.next buffer = .fault fault) (more : Octets) :
    framer.next (buffer ++ more) = .fault fault :=
  next_of_violates ((next_eq_fault_iff.mp refused).append more)

/-! ## Draining -/

theorem drain_of_frame (found : framer.next buffer = .frame frame rest) :
    framer.drain buffer =
      { framer.drain rest with frames := frame :: (framer.drain rest).frames } := by
  rw [drain]
  split <;> simp_all

theorem drain_of_wait (waits : framer.next buffer = .wait) :
    framer.drain buffer = { frames := [], rest := buffer, fault := none } := by
  rw [drain]
  split <;> simp_all

theorem drain_of_fault (refused : framer.next buffer = .fault fault) :
    framer.drain buffer = { frames := [], rest := buffer, fault := some fault } := by
  rw [drain]
  split <;> simp_all

/-- A chunk after a buffer yields what the two yield together. -/
theorem feed_drain (framer : Framer) (buffer chunk : Octets) :
    framer.feed (framer.drain buffer) chunk = framer.drain (buffer ++ chunk) := by
  -- The induction follows the frames at the front of the buffer.
  fun_induction drain framer buffer with
  | case1 buffer frame rest found later inductionHypothesis =>
      rw [drain_of_frame (next_append_of_frame found chunk), ← inductionHypothesis]
      rfl
  | case2 buffer waits => rfl
  | case3 buffer fault refused =>
      rw [drain_of_fault (next_append_of_fault refused chunk), feed,
        drain_of_fault (next_append_of_fault refused chunk)]
      rfl

theorem drainChunks_eq_drain (framer : Framer) (chunks : List Octets) :
    framer.drainChunks chunks = framer.drain chunks.flatten := by
  suffices general : ∀ buffer, chunks.foldl framer.feed (framer.drain buffer) =
      framer.drain (buffer ++ chunks.flatten) by
    have empty : framer.drain [] = { frames := [], rest := [], fault := none } := drain_of_wait rfl
    rw [drainChunks, ← empty]
    exact general []
  induction chunks with
  | nil =>
      intro buffer
      rw [List.flatten_nil, List.append_nil, List.foldl_nil]
  | cons chunk chunks inductionHypothesis =>
      intro buffer
      rw [List.foldl_cons, feed_drain, inductionHypothesis, List.flatten_cons, List.append_assoc]

/-- Every byte is in a frame that was handed out or in what is left. -/
theorem encode_drain (framer : Framer) (buffer : Octets) :
    (framer.drain buffer).frames.flatMap Frame.encode ++ (framer.drain buffer).rest = buffer := by
  fun_induction drain framer buffer with
  | case1 buffer frame rest found later inductionHypothesis =>
      rw [List.flatMap_cons, List.append_assoc, inductionHypothesis]
      exact (next_eq_frame_iff.mp found).2.symm
  | case2 buffer waits => rfl
  | case3 buffer fault refused => rfl

/-- A fault that ended a run is found at the front of what is left. -/
theorem next_rest_of_fault (ended : (framer.drain buffer).fault = some fault) :
    framer.next (framer.drain buffer).rest = .fault fault := by
  fun_induction drain framer buffer with
  | case1 buffer frame rest found later inductionHypothesis => exact inductionHypothesis ended
  | case2 buffer waits => cases ended
  | case3 buffer fault refused =>
      cases ended
      exact refused

end Framer

/-- However a stream is cut into chunks, it yields the frames, the rest and the fault that it yields
in one piece, and every byte is in one of the frames or in the rest.  A fault leaves the bytes that
show it in the buffer, and is found again whatever comes behind them. -/
theorem chunked_stream_drains_whole (framer : Framer) (chunks : List Octets) :
    let drained := framer.drainChunks chunks
    drained = framer.drain chunks.flatten ∧
    drained.frames.flatMap Frame.encode ++ drained.rest = chunks.flatten ∧
    ∀ fault, drained.fault = some fault → ∀ more,
      framer.drain (drained.rest ++ more) =
        { frames := [], rest := drained.rest ++ more, fault := some fault } := by
  intro drained
  have whole : drained = framer.drain chunks.flatten := framer.drainChunks_eq_drain chunks
  refine ⟨whole, whole ▸ framer.encode_drain chunks.flatten, fun fault ended more => ?_⟩
  rw [whole] at ended ⊢
  exact Framer.drain_of_fault (Framer.next_append_of_fault (Framer.next_rest_of_fault ended) more)

/-- An answer to an alive check and the header of another version, cut inside both headers. -/
def sampleChunks : List Octets :=
  [[0x02, 0xFD, 0x00], [], [0x08, 0x00, 0x00, 0x00, 0x02, 0x0E], [0x00, 0x02, 0xFC, 0x00],
    [0x08, 0x00, 0x00, 0x00, 0x02]]

theorem chunked_stream_drains_whole_sample :
    Framer.drainChunks {} sampleChunks =
      { frames := [.ofPayload .aliveCheckResponse [0x0E, 0x00]]
        rest := [0x02, 0xFC, 0x00, 0x08, 0x00, 0x00, 0x00, 0x02]
        fault := some (.versionMismatch 0x02 0xFC) } ∧
    Framer.drain {} [0x02, 0xFC, 0x00, 0x08, 0x00, 0x00, 0x00, 0x02, 0x0E] =
      { frames := []
        rest := [0x02, 0xFC, 0x00, 0x08, 0x00, 0x00, 0x00, 0x02, 0x0E]
        fault := some (.versionMismatch 0x02 0xFC) } := by
  obtain ⟨whole, -, again⟩ := chunked_stream_drains_whole {} sampleChunks
  have drained : Framer.drainChunks {} sampleChunks =
      { frames := [.ofPayload .aliveCheckResponse [0x0E, 0x00]]
        rest := [0x02, 0xFC, 0x00, 0x08, 0x00, 0x00, 0x00, 0x02]
        fault := some (.versionMismatch 0x02 0xFC) } := by
    rw [whole, Framer.drain_of_frame rfl, Framer.drain_of_fault rfl]
    rfl
  rw [drained] at again
  exact ⟨drained, again _ rfl [0x0E]⟩

end DiagnosticGateway
