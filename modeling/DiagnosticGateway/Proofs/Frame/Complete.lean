/-
Module: DiagnosticGateway.Proofs.Frame.Complete
Purpose: The bytes that are one complete frame, and the agreement of the decoder with the framer.
Main exports:
  Frame.WellFormed, Frame.Announces, Frame.Defective, Frame.decode_eq_ok_iff,
  Frame.decode_eq_error_iff, Framer.next_eq_frame_iff_decode, complete_frames_recognized
-/
import DiagnosticGateway.Proofs.Frame.Front

/-!
A frame is read in two places: the decoder is given the bytes of one frame and has to account for
each of them, the framer looks for a frame at the front of what has come so far.  Neither is defined
by the other.  Both turn out to recognize the wire forms of well-formed frames and nothing else, and
at the end of a stream they find the same fault with what is not a frame.
-/

namespace DiagnosticGateway

namespace Frame

/-! ## One complete frame -/

/-- Frames that the wire can carry.  A payload has to leave its length in the length field, which is
written as the largest word for every payload that is longer. -/
structure WellFormed (frame : Frame) : Prop where
  inverse : frame.inverse = 0xFF ^^^ frame.version
  canonical : frame.payloadType.IsCanonical
  fits : frame.payload.length ≤ 0xFFFFFFFF

/-- The bytes begin with a header, and this is the length it declares for the payload. -/
def Announces (bytes : Octets) (length : UInt32) : Prop :=
  ∃ (header : Header) (body : Octets), header.WellFormed ∧ header.payloadLength = length ∧
    bytes = header.toOctets ++ body

/-- Bytes that are not one complete frame, with what is wrong about them.  The first eight bytes
come before the payload: only where they are a header is there a declared length to compare with. -/
inductive Defective : Octets → FramingFault → Prop where
  | headerTooShort {bytes : Octets} (short : bytes.length < 8) :
      Defective bytes (.headerTooShort bytes.length)
  | versionMismatch {version inverse : UInt8} {tail : Octets} (whole : 6 ≤ tail.length)
      (mismatch : inverse ≠ 0xFF ^^^ version) :
      Defective (version :: inverse :: tail) (.versionMismatch version inverse)
  | incompletePayload {header : Header} {body : Octets} (wellFormed : header.WellFormed)
      (short : body.length < header.payloadLength.toNat) :
      Defective (header.toOctets ++ body) (.incompletePayload header.payloadLength body.length)
  | trailingBytes {header : Header} {body : Octets} (wellFormed : header.WellFormed)
      (long : header.payloadLength.toNat < body.length) :
      Defective (header.toOctets ++ body) (.trailingBytes header.payloadLength body.length)

variable {frame : Frame} {bytes : Octets} {fault : FramingFault}

theorem WellFormed.header (wellFormed : frame.WellFormed) : frame.header.WellFormed :=
  header_wellFormed wellFormed.inverse wellFormed.canonical

theorem WellFormed.toNat_lengthField (wellFormed : frame.WellFormed) :
    frame.lengthField.toNat = frame.payload.length :=
  Frame.toNat_lengthField (Nat.lt_succ_of_le wellFormed.fits)

/-- A header and a payload of the declared length are a well-formed frame. -/
theorem wellFormed_withPayload {header : Header} {payload : Octets}
    (wellFormed : header.WellFormed) (length : payload.length = header.payloadLength.toNat) :
    (header.withPayload payload).WellFormed where
  inverse := (complementary_iff _ _).mp wellFormed.complementary
  canonical := wellFormed.canonical
  fits := Nat.le_trans (Nat.le_of_eq length) (Nat.le_of_lt_succ header.payloadLength.toNat_lt)

/-- No other length is announced than that of the header. -/
theorem announces_toOctets_append_iff {header : Header} (wellFormed : header.WellFormed)
    (body : Octets) (length : UInt32) :
    Announces (header.toOctets ++ body) length ↔ header.payloadLength = length := by
  constructor
  · rintro ⟨other, otherBody, otherWellFormed, rfl, same⟩
    have read := Header.take_toOctets_append wellFormed body
    rw [same, Header.take_toOctets_append otherWellFormed] at read
    cases read
    rfl
  · intro declared
    exact ⟨header, body, wellFormed, declared, rfl⟩

theorem announces_encode_iff (wellFormed : frame.WellFormed) (length : UInt32) :
    Announces frame.encode length ↔ frame.lengthField = length := by
  rw [encode_eq]
  exact announces_toOctets_append_iff wellFormed.header _ _

/-! ## The decoder -/

theorem decode_toOctets_append {header : Header} (wellFormed : header.WellFormed)
    (body : Octets) :
    decode (header.toOctets ++ body) =
      if body.length < header.payloadLength.toNat then
        .error (.incompletePayload header.payloadLength body.length)
      else if header.payloadLength.toNat < body.length then
        .error (.trailingBytes header.payloadLength body.length)
      else .ok (header.withPayload body) := by
  rw [decode, Header.take_toOctets_append wellFormed]
  rfl

theorem decode_encode (wellFormed : frame.WellFormed) : decode frame.encode = .ok frame := by
  have length : frame.header.payloadLength.toNat = frame.payload.length :=
    wellFormed.toNat_lengthField
  rw [encode_eq, decode_toOctets_append wellFormed.header, length, if_neg (Nat.lt_irrefl _),
    if_neg (Nat.lt_irrefl _)]
  rfl

theorem decode_of_defective (defective : Defective bytes fault) :
    decode bytes = .error fault := by
  cases defective with
  | headerTooShort short =>
      rw [decode, Header.take_of_short short]
      rfl
  | versionMismatch whole mismatch =>
      have mismatch := mt (complementary_iff _ _).mp mismatch
      rw [decode, Header.take_of_mismatch whole mismatch]
      rfl
  | incompletePayload wellFormed short =>
      rw [decode_toOctets_append wellFormed, if_pos short]
  | trailingBytes wellFormed long =>
      rw [decode_toOctets_append wellFormed, if_neg (Nat.lt_asymm long), if_pos long]

/-- Bytes are the wire form of a well-formed frame, or something is wrong about them. -/
theorem encoded_or_defective (bytes : Octets) :
    (∃ frame : Frame, frame.WellFormed ∧ frame.encode = bytes) ∨
      ∃ fault, Defective bytes fault := by
  by_cases short : bytes.length < 8
  · exact .inr ⟨_, .headerTooShort short⟩
  rcases Header.exists_of_long (Nat.not_lt.mp short) with
    ⟨version, inverse, tail, rfl, whole, mismatch⟩ | ⟨header, body, rfl, wellFormed⟩
  · rw [complementary_iff] at mismatch
    exact .inr ⟨_, .versionMismatch whole mismatch⟩
  -- A declared length is there, and what follows the header falls short of it, meets it or exceeds it.
  rcases Nat.lt_trichotomy body.length header.payloadLength.toNat with short | length | long
  · exact .inr ⟨_, .incompletePayload wellFormed short⟩
  · refine .inl ⟨header.withPayload body, wellFormed_withPayload wellFormed length, ?_⟩
    rw [encode_eq, header_withPayload length]
    rfl
  · exact .inr ⟨_, .trailingBytes wellFormed long⟩

/-- Nothing but the wire forms of well-formed frames is decoded. -/
theorem decode_eq_ok_iff : decode bytes = .ok frame ↔ frame.WellFormed ∧ frame.encode = bytes := by
  constructor
  · intro decoded
    rcases encoded_or_defective bytes with ⟨other, wellFormed, rfl⟩ | ⟨fault, defective⟩
    · cases (decode_encode wellFormed).symm.trans decoded
      exact ⟨wellFormed, rfl⟩
    · exact absurd ((decode_of_defective defective).symm.trans decoded) nofun
  · rintro ⟨wellFormed, rfl⟩
    exact decode_encode wellFormed

/-- The fault of the decoder is what is wrong about the bytes. -/
theorem decode_eq_error_iff : decode bytes = .error fault ↔ Defective bytes fault := by
  constructor
  · intro refused
    rcases encoded_or_defective bytes with ⟨other, wellFormed, rfl⟩ | ⟨fault, defective⟩
    · exact absurd ((decode_encode wellFormed).symm.trans refused) nofun
    · cases (decode_of_defective defective).symm.trans refused
      exact defective
  · exact decode_of_defective

end Frame

namespace Framer

variable {framer : Framer} {buffer rest : Octets} {frame : Frame} {fault : FramingFault}

/-! ## The framer -/

/-- A framer hands out the well-formed frames that declare a length within its limit. -/
theorem admits_iff : framer.Admits frame ↔ frame.WellFormed ∧ frame.lengthField ≤ framer.limit := by
  rw [UInt32.le_iff_toNat_le]
  constructor
  · rintro ⟨inverse, canonical, fits⟩
    have wellFormed : frame.WellFormed :=
      ⟨inverse, canonical, Nat.le_trans fits (Nat.le_of_lt_succ framer.limit.toNat_lt)⟩
    exact ⟨wellFormed, Nat.le_trans (Nat.le_of_eq wellFormed.toNat_lengthField) fits⟩
  · rintro ⟨wellFormed, admitted⟩
    exact ⟨wellFormed.inverse, wellFormed.canonical, wellFormed.toNat_lengthField ▸ admitted⟩

/-- The framer hands out what the decoder makes of the bytes that it removes, if they declare a
length within the limit. -/
theorem next_eq_frame_iff_decode :
    framer.next buffer = .frame frame rest ↔
      ∃ front length, buffer = front ++ rest ∧ Frame.decode front = .ok frame ∧
        Frame.Announces front length ∧ length ≤ framer.limit := by
  rw [next_eq_frame_iff, admits_iff]
  constructor
  · rintro ⟨⟨wellFormed, admitted⟩, rfl⟩
    exact ⟨frame.encode, frame.lengthField, rfl, Frame.decode_encode wellFormed,
      (Frame.announces_encode_iff wellFormed _).mpr rfl, admitted⟩
  · rintro ⟨front, length, rfl, decoded, announces, admitted⟩
    obtain ⟨wellFormed, rfl⟩ := Frame.decode_eq_ok_iff.mp decoded
    cases (Frame.announces_encode_iff wellFormed length).mp announces
    exact ⟨⟨wellFormed, admitted⟩, rfl⟩

/-- A declared length beyond the limit is refused, whatever follows the header. -/
theorem finish_of_announces {length : UInt32} (announces : Frame.Announces buffer length)
    (large : framer.limit < length) :
    framer.finish buffer = .fault (.payloadTooLarge length framer.limit) := by
  obtain ⟨header, body, wellFormed, rfl, rfl⟩ := announces
  exact finish_of_next (next_of_violates (.payloadTooLarge wellFormed large body)) nofun

/-- The beginning of a frame is not a frame, and for the reason that is given when the stream has
ended. -/
theorem defective_of_unfinished (unfinished : framer.Unfinished buffer fault) :
    Frame.Defective buffer fault := by
  cases unfinished with
  | header begun short => exact .headerTooShort short
  | payload wellFormed admitted short => exact .incompletePayload wellFormed short

/-- Where no frame stands and the limit is kept, the end of the stream brings up the decoder's
fault. -/
theorem exists_finish_eq_fault (begun : buffer ≠ [])
    (within : ∀ length, Frame.Announces buffer length → length ≤ framer.limit)
    (incomplete : ¬∃ front rest frame, buffer = front ++ rest ∧ Frame.decode front = .ok frame) :
    ∃ fault, Frame.decode buffer = .error fault ∧ framer.finish buffer = .fault fault := by
  rcases framer.exists_front buffer with
    rfl | ⟨frame, rest, admits, rfl⟩ | ⟨fault, violates⟩ | ⟨fault, unfinished⟩
  · exact absurd rfl begun
  · have wellFormed := (admits_iff.mp admits).1
    exact absurd ⟨frame.encode, rest, frame, rfl, Frame.decode_encode wellFormed⟩ incomplete
  · have finished := finish_of_next (next_of_violates violates) nofun
    cases violates with
    | versionMismatch whole mismatch =>
        exact ⟨_, Frame.decode_of_defective (.versionMismatch whole mismatch), finished⟩
    | payloadTooLarge wellFormed large body =>
        -- This is the framer's own fault, which the decoder does not know.
        have admitted := within _ ((Frame.announces_toOctets_append_iff wellFormed body _).mpr rfl)
        exact absurd large (UInt32.not_lt.mpr admitted)
  · exact ⟨fault, Frame.decode_of_defective (defective_of_unfinished unfinished),
      finish_of_unfinished unfinished⟩

end Framer

/-- Bytes are decoded to a frame exactly if the frame is well-formed and they are its wire form, and
refused with a fault exactly if this is the first thing that is wrong about them.  A framer hands
out a frame and leaves a rest exactly if the bytes before the rest are decoded to the frame and
declare a length within the limit.  When the stream has ended, a declared length beyond the limit is
a fault; within the limit, bytes that do not begin with a complete frame are refused with the
decoder's fault. -/
theorem complete_frames_recognized (framer : Framer) (bytes : Octets) :
    (∀ frame, Frame.decode bytes = .ok frame ↔ frame.WellFormed ∧ frame.encode = bytes) ∧
    (∀ fault, Frame.decode bytes = .error fault ↔ Frame.Defective bytes fault) ∧
    (∀ frame rest, framer.next bytes = .frame frame rest ↔
      ∃ front length, bytes = front ++ rest ∧ Frame.decode front = .ok frame ∧
        Frame.Announces front length ∧ length ≤ framer.limit) ∧
    (∀ length, Frame.Announces bytes length → framer.limit < length →
      framer.finish bytes = .fault (.payloadTooLarge length framer.limit)) ∧
    (bytes ≠ [] → (∀ length, Frame.Announces bytes length → length ≤ framer.limit) →
      (¬∃ front rest frame, bytes = front ++ rest ∧ Frame.decode front = .ok frame) →
      ∃ fault, Frame.decode bytes = .error fault ∧ framer.finish bytes = .fault fault) := by
  refine ⟨?decoded, ?refused, ?framed, ?large, ?finished⟩
  case decoded =>
    intro frame
    exact Frame.decode_eq_ok_iff
  case refused =>
    intro fault
    exact Frame.decode_eq_error_iff
  case framed =>
    intro frame rest
    exact Framer.next_eq_frame_iff_decode
  case large =>
    intro length announces large
    exact Framer.finish_of_announces announces large
  case finished =>
    intro begun within incomplete
    exact Framer.exists_finish_eq_fault begun within incomplete

/-- An answer to an alive check, of which the last byte is missing. -/
def sampleTruncatedFrame : Octets := [0x02, 0xFD, 0x00, 0x08, 0x00, 0x00, 0x00, 0x02, 0x0E]

theorem complete_frames_recognized_sample :
    Frame.Defective sampleTruncatedFrame (.incompletePayload 2 1) ∧
    Framer.finish { limit := 1 } sampleTruncatedFrame = .fault (.payloadTooLarge 2 1) ∧
    Framer.finish { limit := 0xFFFFFFFF } sampleTruncatedFrame =
      .fault (.incompletePayload 2 1) := by
  have wellFormed : Frame.Header.WellFormed
      { version := 0x02
        inverse := 0xFD
        payloadType := .aliveCheckResponse
        payloadLength := 2 } := ⟨by decide, by decide⟩
  have announces : ∀ length, Frame.Announces sampleTruncatedFrame length ↔ 2 = length :=
    Frame.announces_toOctets_append_iff wellFormed [0x0E]
  obtain ⟨-, -, -, large, -⟩ := complete_frames_recognized { limit := 1 } sampleTruncatedFrame
  obtain ⟨-, refused, framed, -, finished⟩ :=
    complete_frames_recognized { limit := 0xFFFFFFFF } sampleTruncatedFrame
  have within : ∀ length : UInt32, length ≤ 0xFFFFFFFF := fun length =>
    UInt32.le_iff_toNat_le.mpr (Nat.le_of_lt_succ length.toNat_lt)
  have incomplete :
      ¬∃ front rest frame, sampleTruncatedFrame = front ++ rest ∧
        Frame.decode front = .ok frame := by
    rintro ⟨front, rest, frame, whole, decoded⟩
    obtain ⟨encodable, rfl⟩ := Frame.decode_eq_ok_iff.mp decoded
    have found := (framed frame rest).mpr
      ⟨_, _, whole, decoded, (Frame.announces_encode_iff encodable _).mpr rfl, within _⟩
    cases found
  refine ⟨(refused _).mp rfl, large 2 ((announces 2).mpr rfl) (by decide), ?_⟩
  obtain ⟨fault, decoded, ended⟩ := finished nofun (fun length _ => within length) incomplete
  cases decoded
  exact ended

end DiagnosticGateway
