/-
Module: DiagnosticGateway.Frame.Basic
Purpose: Frames, their eight-byte header, and the decoding of one complete frame.
Main exports:
  FramingFault, Frame, Frame.Header, Frame.encode, Frame.decode
-/
import DiagnosticGateway.Frame.PayloadType

/-!
A frame is a header of eight bytes and a payload.  The header holds the protocol version, its
complement, the payload type and the payload's length.
-/

namespace DiagnosticGateway

/-- Violations of the header's contract.  On a stream each of them is final. -/
inductive FramingFault where
  | headerTooShort (got : Nat)
  | versionMismatch (version inverse : UInt8)
  | incompletePayload (declared : UInt32) (got : Nat)
  | trailingBytes (declared : UInt32) (got : Nat)
  | payloadTooLarge (length limit : UInt32)
deriving DecidableEq

namespace Frame

/-- Bytes in a header. -/
def headerLength : Nat := 8

/-- The fields of a header. -/
structure Header where
  version : UInt8
  inverse : UInt8
  payloadType : PayloadType
  payloadLength : UInt32
deriving DecidableEq

end Frame

namespace FramingFault

/-- The wording of a violation. -/
def message : FramingFault → String
  | .headerTooShort got => s!"Frame too short: need {Frame.headerLength} header bytes, got {got}"
  | .versionMismatch version inverse =>
      s!"Protocol version mismatch: version 0x{Hex.byte version}, inverse 0x{Hex.byte inverse}"
  | .incompletePayload declared got =>
      s!"Incomplete payload: declared {declared} bytes, got {got}"
  | .trailingBytes declared got =>
      s!"Trailing bytes after payload: declared {declared} bytes, got {got}"
  | .payloadTooLarge length limit => s!"Payload too large: {length} bytes (max {limit})"

end FramingFault

/-- One message on the wire.  The default version bytes are complements of each other; a frame
built by hand may hold any pair. -/
structure Frame where
  version : UInt8 := 0x02
  inverse : UInt8 := 0xFD
  payloadType : PayloadType
  payload : Octets
deriving DecidableEq

namespace Frame

/-- Version bytes that a header may carry: the second is the complement of the first. -/
def Complementary (version inverse : UInt8) : Prop := inverse = ~~~version

instance (version inverse : UInt8) : Decidable (Complementary version inverse) :=
  inferInstanceAs (Decidable (inverse = ~~~version))

/-- A frame of the default version. -/
def ofPayload (payloadType : PayloadType) (payload : Octets) : Frame :=
  { payloadType := payloadType, payload := payload }

/-- Bytes of the frame on the wire. -/
def wireSize (frame : Frame) : Nat := headerLength + frame.payload.length

/-- The length field: the payload's length, or the largest word if it does not fit. -/
def lengthField (frame : Frame) : UInt32 :=
  UInt32.ofNat (min frame.payload.length 0xFFFFFFFF)

/-- The wire form of a frame. -/
def encode (frame : Frame) : Octets :=
  frame.version :: frame.inverse ::
    (Octets.ofWord16 frame.payloadType.code ++
      (Octets.ofWord32 frame.lengthField ++ frame.payload))

namespace Header

/-- Bytes of the frame that the header announces. -/
def frameLength (header : Header) : Nat := headerLength + header.payloadLength.toNat

/-- Read a header from the front and hand on the bytes after it. -/
def take (bytes : Octets) : Except FramingFault (Header × Octets) :=
  match bytes with
  | version :: inverse :: typeHigh :: typeLow :: first :: second :: third :: fourth :: body =>
      if Complementary version inverse then
        .ok
          ({ version := version
             inverse := inverse
             payloadType := .ofCode (Octets.word16 typeHigh typeLow)
             payloadLength := Octets.word32 first second third fourth },
            body)
      else .error (.versionMismatch version inverse)
  | short => .error (.headerTooShort short.length)

/-- Reading a header takes its eight bytes and nothing else. -/
theorem length_of_take {bytes body : Octets} {header : Header}
    (taken : take bytes = .ok (header, body)) :
    bytes.length = body.length + headerLength := by
  unfold take at taken
  split at taken
  · split at taken
    · simp only [Except.ok.injEq, Prod.mk.injEq] at taken
      rw [← taken.2]
      rfl
    · simp at taken
  · simp at taken

/-- The frame that a header and a payload make. -/
def withPayload (header : Header) (payload : Octets) : Frame :=
  { version := header.version
    inverse := header.inverse
    payloadType := header.payloadType
    payload := payload }

end Header

/-- Decode exactly one complete frame.  Missing bytes are reported before surplus ones. -/
def decode (bytes : Octets) : Except FramingFault Frame := do
  let (header, body) ← Header.take bytes
  if body.length < header.payloadLength.toNat then
    .error (.incompletePayload header.payloadLength body.length)
  else if header.payloadLength.toNat < body.length then
    .error (.trailingBytes header.payloadLength body.length)
  else .ok (header.withPayload body)

end Frame

end DiagnosticGateway
