/-
Module: DiagnosticGateway.Proofs.Frame.Language
Purpose: The streams that end well are the concatenations of frames, each in one way.
Main exports:
  Framer.Spells, Framer.drainFinal_of_spells, final_drain_recognizes_frames
-/
import DiagnosticGateway.Proofs.Frame.Front

/-!
A stream that has ended is read to the end, or up to the first place where no frame stands.  Which
streams are read to the end, and as what, is said without the framer's work: a list of frames spells
a stream when their wire forms, one behind the other, are the stream.
-/

namespace DiagnosticGateway

namespace Framer

/-- Frames that are admitted make up a stream. -/
structure Spells (framer : Framer) (frames : List Frame) (stream : Octets) : Prop where
  admits : ∀ frame ∈ frames, framer.Admits frame
  stream : frames.flatMap Frame.encode = stream

variable {framer : Framer} {buffer rest : Octets} {frame : Frame} {fault : FramingFault}

/-! ## Draining at the end -/

theorem drainFinal_of_frame (found : framer.finish buffer = .frame frame rest) :
    framer.drainFinal buffer =
      { framer.drainFinal rest with frames := frame :: (framer.drainFinal rest).frames } := by
  rw [drainFinal]
  split <;> simp_all

theorem drainFinal_of_wait (waits : framer.finish buffer = .wait) :
    framer.drainFinal buffer = { frames := [], rest := buffer, fault := none } := by
  rw [drainFinal]
  split <;> simp_all

theorem drainFinal_of_fault (refused : framer.finish buffer = .fault fault) :
    framer.drainFinal buffer = { frames := [], rest := buffer, fault := some fault } := by
  rw [drainFinal]
  split <;> simp_all

/-- The frames that were handed out spell the stream up to what is left of it. -/
theorem exists_spells_drainFinal (framer : Framer) (stream : Octets) :
    ∃ front, framer.Spells (framer.drainFinal stream).frames front ∧
      front ++ (framer.drainFinal stream).rest = stream := by
  fun_induction drainFinal framer stream with
  | case1 stream frame rest found later inductionHypothesis =>
      obtain ⟨front, spells, whole⟩ := inductionHypothesis
      obtain ⟨admits, rfl⟩ := finish_eq_frame_iff.mp found
      refine ⟨frame.encode ++ front, ⟨?_, ?_⟩, ?_⟩
      · exact List.forall_mem_cons.mpr ⟨admits, spells.admits⟩
      · rw [List.flatMap_cons, spells.stream]
      · rw [List.append_assoc, whole]
  | case2 stream waits => exact ⟨[], ⟨nofun, rfl⟩, rfl⟩
  | case3 stream fault refused => exact ⟨[], ⟨nofun, rfl⟩, rfl⟩

/-- A run that ends without a fault has read everything, and one that ends with a fault has left
what the fault is about. -/
theorem rest_drainFinal (framer : Framer) (stream : Octets) :
    let drained := framer.drainFinal stream
    (drained.fault = none ∧ drained.rest = []) ∨
      ∃ fault, drained.fault = some fault ∧ drained.rest ≠ [] ∧
        (framer.Violates drained.rest fault ∨ framer.Unfinished drained.rest fault) := by
  fun_induction drainFinal framer stream with
  | case1 stream frame rest found later inductionHypothesis => exact inductionHypothesis
  | case2 stream waits => exact .inl ⟨rfl, finish_eq_wait_iff.mp waits⟩
  | case3 stream fault refused =>
      refine .inr ⟨fault, rfl, ?_, finish_eq_fault_iff.mp refused⟩
      rintro rfl
      cases refused

/-- A stream that frames spell is read as these frames. -/
theorem drainFinal_of_spells {frames : List Frame} {stream : Octets}
    (spells : framer.Spells frames stream) :
    framer.drainFinal stream = { frames := frames, rest := [], fault := none } := by
  obtain ⟨admits, rfl⟩ := spells
  induction frames with
  | nil => exact drainFinal_of_wait rfl
  | cons frame frames inductionHypothesis =>
      obtain ⟨first, others⟩ := List.forall_mem_cons.mp admits
      have found : framer.finish ((frame :: frames).flatMap Frame.encode) =
          .frame frame (frames.flatMap Frame.encode) :=
        finish_eq_frame_iff.mpr ⟨first, rfl⟩
      rw [drainFinal_of_frame found, inductionHypothesis others]

end Framer

/-- Read to its end, a stream falls into frames that the limit admits and a rest, and no byte is
lost.  There is no fault exactly if nothing is left, and nothing is left exactly if frames spell the
stream, which only the frames that were read do.  A fault tells what is wrong with the rest: its
first eight bytes, or that it is cut short. -/
theorem final_drain_recognizes_frames (framer : Framer) (stream : Octets) :
    let drained := framer.drainFinal stream
    drained.frames.flatMap Frame.encode ++ drained.rest = stream ∧
    (∀ frame ∈ drained.frames, framer.Admits frame) ∧
    (drained.fault = none ↔ drained.rest = []) ∧
    (drained.rest = [] ↔ ∃ frames, framer.Spells frames stream) ∧
    (∀ frames, framer.Spells frames stream → frames = drained.frames) ∧
    ∀ fault, drained.fault = some fault →
      framer.Violates drained.rest fault ∨ framer.Unfinished drained.rest fault := by
  intro drained
  obtain ⟨front, spells, whole⟩ := framer.exists_spells_drainFinal stream
  have read : ∀ frames, framer.Spells frames stream →
      drained = { frames := frames, rest := [], fault := none } :=
    fun frames spells => Framer.drainFinal_of_spells spells
  have rest := framer.rest_drainFinal stream
  refine ⟨?_, spells.admits, ?_, ⟨?_, ?_⟩, ?_, ?_⟩
  · rw [spells.stream]
    exact whole
  · rcases rest with ⟨faultless, empty⟩ | ⟨fault, faulty, nonempty, -⟩
    · exact ⟨fun _ => empty, fun _ => faultless⟩
    · simp [drained, faulty, nonempty]
  · intro empty
    refine ⟨drained.frames, spells.admits, ?_⟩
    rw [spells.stream, ← whole, show (framer.drainFinal stream).rest = [] from empty,
      List.append_nil]
  · rintro ⟨frames, spelled⟩
    rw [read frames spelled]
  · intro frames spelled
    rw [read frames spelled]
  · intro fault faulty
    rcases rest with ⟨faultless, -⟩ | ⟨other, faulty', -, wrong⟩
    · exact absurd (faultless.symm.trans faulty) nofun
    · cases faulty'.symm.trans faulty
      exact wrong

/-- An answer to an alive check, and a refusal whose payload has not come. -/
def sampleCutStream : Octets :=
  [0x02, 0xFD, 0x00, 0x08, 0x00, 0x00, 0x00, 0x02, 0x0E, 0x00,
    0x03, 0xFC, 0x00, 0x00, 0x00, 0x00, 0x00, 0x01]

theorem final_drain_recognizes_frames_sample :
    Framer.drainFinal {} sampleCutStream =
      { frames := [.ofPayload .aliveCheckResponse [0x0E, 0x00]]
        rest := [0x03, 0xFC, 0x00, 0x00, 0x00, 0x00, 0x00, 0x01]
        fault := some (.incompletePayload 1 0) } ∧
    Framer.Admits {} (.ofPayload .aliveCheckResponse [0x0E, 0x00]) ∧
    (¬∃ frames, Framer.Spells {} frames sampleCutStream) ∧
    Framer.Unfinished {} [0x03, 0xFC, 0x00, 0x00, 0x00, 0x00, 0x00, 0x01]
      (.incompletePayload 1 0) := by
  have drained : Framer.drainFinal {} sampleCutStream =
      { frames := [.ofPayload .aliveCheckResponse [0x0E, 0x00]]
        rest := [0x03, 0xFC, 0x00, 0x00, 0x00, 0x00, 0x00, 0x01]
        fault := some (.incompletePayload 1 0) } := by
    rw [Framer.drainFinal_of_frame rfl, Framer.drainFinal_of_fault rfl]
    rfl
  obtain ⟨-, admitted, -, empty, -, wrong⟩ := final_drain_recognizes_frames {} sampleCutStream
  rw [drained] at admitted empty wrong
  refine ⟨drained, admitted _ (List.mem_singleton.mpr rfl), ?_, ?_⟩
  · rw [← empty]
    exact List.cons_ne_nil _ _
  · rcases wrong _ rfl with violates | unfinished
    · exact absurd (Framer.next_of_violates violates) (by decide)
    · exact unfinished

end DiagnosticGateway
