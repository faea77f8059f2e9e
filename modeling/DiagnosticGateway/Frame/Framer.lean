/-
Module: DiagnosticGateway.Frame.Framer
Purpose: Cutting a byte stream into frames.
Main exports:
  Framer, Framer.Outcome, Framer.write, Framer.next, Framer.finish, Framer.drain
-/
import DiagnosticGateway.Frame.Basic

/-!
A framer looks at the bytes buffered so far.  It waits for the eight header bytes, refuses a header
that breaks the contract or announces more than the limit, then waits for the announced payload and
hands out one frame together with the bytes after it.  A violation consumes nothing, so looking
again finds it again.
-/

namespace DiagnosticGateway

/-- A stream framer and the largest payload it lets through. -/
structure Framer where
  limit : UInt32 := 65536
deriving DecidableEq

namespace Framer

/-- Put a frame behind the bytes that wait to be sent.  The limit is for what comes in; no frame is
held back for it. -/
def write (_framer : Framer) (waiting : Octets) (frame : Frame) : Octets := waiting ++ frame.encode

/-- What a look at the buffered bytes yields. -/
inductive Outcome where
  /-- One frame, and the bytes behind it. -/
  | frame (frame : Frame) (rest : Octets)
  /-- More bytes are needed. -/
  | wait
  | fault (fault : FramingFault)
deriving DecidableEq

/-- Look for a frame at the front of the buffer. -/
def next (framer : Framer) (buffer : Octets) : Outcome :=
  match Frame.Header.take buffer with
  | .error (.headerTooShort _) => .wait
  | .error fault => .fault fault
  | .ok (header, body) =>
      if framer.limit < header.payloadLength then
        .fault (.payloadTooLarge header.payloadLength framer.limit)
      else
        match Octets.takeBlock header.payloadLength.toNat body with
        | none => .wait
        | some (payload, rest) => .frame (header.withPayload payload) rest

/-- Look for a frame when no more bytes will come: what would be waited for is now missing, unless
the buffer is empty. -/
def finish (framer : Framer) (buffer : Octets) : Outcome :=
  match framer.next buffer with
  | .wait =>
      match buffer with
      | [] => .wait
      | _ :: _ =>
          match Frame.Header.take buffer with
          | .error fault => .fault fault
          | .ok (header, body) => .fault (.incompletePayload header.payloadLength body.length)
  | outcome => outcome

/-- A frame leaves fewer bytes than there were. -/
theorem length_lt_of_next {framer : Framer} {buffer rest : Octets} {frame : Frame}
    (found : framer.next buffer = .frame frame rest) : rest.length < buffer.length := by
  unfold next at found
  split at found
  · simp at found
  · simp at found
  · rename_i header body taken
    have whole := Frame.Header.length_of_take taken
    split at found
    · simp at found
    · split at found
      · simp at found
      · rename_i payload tail block
        simp only [Outcome.frame.injEq] at found
        have parts := (Octets.eq_of_takeBlock_eq_some block).1
        rw [whole, parts, List.length_append, ← found.2, Frame.headerLength]
        omega

/-- A frame found at the end of the stream is the one found while it was open. -/
theorem next_of_finish {framer : Framer} {buffer rest : Octets} {frame : Frame}
    (found : framer.finish buffer = .frame frame rest) :
    framer.next buffer = .frame frame rest := by
  unfold finish at found
  split at found
  · split at found
    · simp at found
    · split at found <;> simp at found
  · exact found

/-- All that a buffer yields: the frames in order, the bytes left, and the violation that ended the
run, if one did. -/
structure Drained where
  frames : List Frame
  rest : Octets
  fault : Option FramingFault
deriving DecidableEq

/-- Look for frames until more bytes are needed or a violation is met. -/
def drain (framer : Framer) (buffer : Octets) : Drained :=
  match _found : framer.next buffer with
  | .frame frame rest =>
      let later := framer.drain rest
      { later with frames := frame :: later.frames }
  | .wait => { frames := [], rest := buffer, fault := none }
  | .fault fault => { frames := [], rest := buffer, fault := some fault }
termination_by buffer.length
decreasing_by exact length_lt_of_next _found

/-- Look for frames at the end of the stream until the buffer is empty or a violation is met. -/
def drainFinal (framer : Framer) (buffer : Octets) : Drained :=
  match _found : framer.finish buffer with
  | .frame frame rest =>
      let later := framer.drainFinal rest
      { later with frames := frame :: later.frames }
  | .wait => { frames := [], rest := buffer, fault := none }
  | .fault fault => { frames := [], rest := buffer, fault := some fault }
termination_by buffer.length
decreasing_by exact length_lt_of_next (next_of_finish _found)

end Framer

end DiagnosticGateway
