/-
Module: DiagnosticGateway.Proofs.Frame.Front
Purpose: What can stand at the front of a buffer, and what a framer makes of it.
Main exports:
  Frame.Header.toOctets, Frame.Header.WellFormed, Framer.Admits, Framer.Violates,
  Framer.Unfinished, Framer.Front, Framer.front, Framer.next_eq_frame_iff,
  Framer.next_eq_fault_iff, Framer.finish_eq_frame_iff, Framer.finish_eq_fault_iff,
  Framer.finish_eq_wait_iff
-/
import DiagnosticGateway.Frame.Framer

/-!
The outcomes of a look at a buffer are described by the bytes at its front, without mention of how
they are read.  A frame is found exactly where its wire form stands and the limit admits it; a
violation shows in the first eight bytes; and everything else is the beginning of a frame, which is
waited for while the stream is open and missed when it has ended.
-/

namespace DiagnosticGateway

namespace Frame

/-! ## Headers -/

/-- The second version byte is the first with every bit turned over. -/
theorem complementary_iff (version inverse : UInt8) :
    Complementary version inverse ↔ inverse = 0xFF ^^^ version := by
  have same : ~~~version = 0xFF ^^^ version := UInt8.eq_of_toBitVec_eq BitVec.not_def
  rw [Complementary, same]

namespace Header

/-- The eight bytes of a header. -/
def toOctets (header : Header) : Octets :=
  header.version :: header.inverse ::
    (Octets.ofWord16 header.payloadType.code ++ Octets.ofWord32 header.payloadLength)

/-- Headers that can be read from the wire. -/
structure WellFormed (header : Header) : Prop where
  complementary : Complementary header.version header.inverse
  canonical : header.payloadType.IsCanonical

theorem take_toOctets_append {header : Header} (wellFormed : header.WellFormed) (body : Octets) :
    take (header.toOctets ++ body) = .ok (header, body) := by
  obtain ⟨version, inverse, payloadType, payloadLength⟩ := header
  obtain ⟨complementary, canonical⟩ := wellFormed
  have reads : PayloadType.ofCode payloadType.code = payloadType := canonical
  simp only [toOctets, Octets.ofWord16, Octets.ofWord32, List.cons_append, List.nil_append, take]
  rw [if_pos complementary, Octets.word16_of_parts, Octets.word32_of_parts, reads]

/-- Fewer than eight bytes hold no header. -/
theorem take_of_short {bytes : Octets} (short : bytes.length < headerLength) :
    take bytes = .error (.headerTooShort bytes.length) := by
  unfold take
  split
  · simp only [headerLength, List.length_cons] at short
    omega
  · rfl

/-- Eight bytes hold a header, unless the versions do not fit. -/
theorem exists_of_long {bytes : Octets} (long : headerLength ≤ bytes.length) :
    (∃ version inverse tail, bytes = version :: inverse :: tail ∧ 6 ≤ tail.length ∧
      ¬Complementary version inverse) ∨
    ∃ (header : Header) (body : Octets), bytes = header.toOctets ++ body ∧
      header.WellFormed := by
  match bytes, long with
  | version :: inverse :: high :: low :: first :: second :: third :: fourth :: body, _ =>
      by_cases complementary : Complementary version inverse
      · right
        refine
          ⟨{ version := version
             inverse := inverse
             payloadType := .ofCode (Octets.word16 high low)
             payloadLength := Octets.word32 first second third fourth },
            body, ?_, complementary, PayloadType.isCanonical_ofCode _⟩
        simp [toOctets, Octets.ofWord16_word16, Octets.ofWord32_word32]
      · exact .inl ⟨version, inverse, _, rfl, by simp, complementary⟩

theorem take_of_mismatch {version inverse : UInt8} {tail : Octets} (whole : 6 ≤ tail.length)
    (mismatch : ¬Complementary version inverse) :
    take (version :: inverse :: tail) = .error (.versionMismatch version inverse) := by
  match tail, whole with
  | high :: low :: first :: second :: third :: fourth :: body, _ =>
      simp only [take, if_neg mismatch]

end Header

/-! ## Frames -/

/-- The header of a frame. -/
def header (frame : Frame) : Header :=
  { version := frame.version
    inverse := frame.inverse
    payloadType := frame.payloadType
    payloadLength := frame.lengthField }

/-- The wire form of a frame is that of its header, and then the payload. -/
theorem encode_eq (frame : Frame) : frame.encode = frame.header.toOctets ++ frame.payload := by
  simp [encode, Header.toOctets, header]

theorem header_wellFormed {frame : Frame} (inverse : frame.inverse = 0xFF ^^^ frame.version)
    (canonical : frame.payloadType.IsCanonical) : frame.header.WellFormed :=
  ⟨(complementary_iff _ _).mpr inverse, canonical⟩

/-- The length field tells the length of a payload that fits. -/
theorem lengthField_eq {frame : Frame} (fits : frame.payload.length < UInt32.size) :
    frame.lengthField = UInt32.ofNat frame.payload.length := by
  rw [lengthField, Nat.min_eq_left (Nat.le_of_lt_succ fits)]

theorem toNat_lengthField {frame : Frame} (fits : frame.payload.length < UInt32.size) :
    frame.lengthField.toNat = frame.payload.length := by
  rw [lengthField_eq fits]
  exact UInt32.toNat_ofNat_of_lt' fits

/-- A header and a payload of its length are put together to a frame with that header. -/
theorem header_withPayload {header : Header} {payload : Octets}
    (length : payload.length = header.payloadLength.toNat) :
    (header.withPayload payload).header = header := by
  have fits : payload.length < UInt32.size := length ▸ header.payloadLength.toNat_lt
  have field : (header.withPayload payload).lengthField = header.payloadLength :=
    UInt32.toNat_inj.mp ((toNat_lengthField fits).trans length)
  rw [Frame.header, field]
  rfl

end Frame

namespace Framer

/-! ## The front of a buffer -/

/-- Frames that a framer hands out. -/
structure Admits (framer : Framer) (frame : Frame) : Prop where
  inverse : frame.inverse = 0xFF ^^^ frame.version
  canonical : frame.payloadType.IsCanonical
  fits : frame.payload.length ≤ framer.limit.toNat

/-- The first eight bytes of a buffer break the contract. -/
inductive Violates (framer : Framer) : Octets → FramingFault → Prop where
  | versionMismatch {version inverse : UInt8} {tail : Octets} (whole : 6 ≤ tail.length)
      (mismatch : inverse ≠ 0xFF ^^^ version) :
      Violates framer (version :: inverse :: tail) (.versionMismatch version inverse)
  | payloadTooLarge {header : Frame.Header} (wellFormed : header.WellFormed)
      (large : framer.limit < header.payloadLength) (body : Octets) :
      Violates framer (header.toOctets ++ body)
        (.payloadTooLarge header.payloadLength framer.limit)

/-- A buffer holds the beginning of a frame and not its end: this is what is wrong if no more bytes
come. -/
inductive Unfinished (framer : Framer) : Octets → FramingFault → Prop where
  | header {buffer : Octets} (begun : buffer ≠ []) (short : buffer.length < 8) :
      Unfinished framer buffer (.headerTooShort buffer.length)
  | payload {header : Frame.Header} {body : Octets} (wellFormed : header.WellFormed)
      (admitted : header.payloadLength ≤ framer.limit)
      (short : body.length < header.payloadLength.toNat) :
      Unfinished framer (header.toOctets ++ body)
        (.incompletePayload header.payloadLength body.length)

/-- Everything that can stand at the front of a buffer, with what comes of a look at it: first while
the stream is open, then when it has ended. -/
inductive Front (framer : Framer) : Octets → Outcome → Outcome → Prop where
  | nothing : Front framer [] .wait .wait
  | frame {frame : Frame} (admits : framer.Admits frame) (rest : Octets) :
      Front framer (frame.encode ++ rest) (.frame frame rest) (.frame frame rest)
  | violation {buffer : Octets} {fault : FramingFault}
      (violates : framer.Violates buffer fault) :
      Front framer buffer (.fault fault) (.fault fault)
  | unfinished {buffer : Octets} {fault : FramingFault}
      (unfinished : framer.Unfinished buffer fault) : Front framer buffer .wait (.fault fault)

variable {framer : Framer} {buffer rest : Octets} {frame : Frame} {fault : FramingFault}

/-! ## What comes of each front -/

theorem next_of_admits (admits : framer.Admits frame) (rest : Octets) :
    framer.next (frame.encode ++ rest) = .frame frame rest := by
  have length : frame.header.payloadLength.toNat = frame.payload.length :=
    Frame.toNat_lengthField (Nat.lt_of_le_of_lt admits.fits framer.limit.toNat_lt)
  have wellFormed : frame.header.WellFormed :=
    Frame.header_wellFormed admits.inverse admits.canonical
  have admitted : ¬framer.limit < frame.header.payloadLength := by
    rw [UInt32.lt_iff_toNat_lt, length]
    exact Nat.not_lt.mpr admits.fits
  rw [Frame.encode_eq, List.append_assoc]
  simp only [next, Frame.Header.take_toOctets_append wellFormed, if_neg admitted,
    Octets.takeBlock_append length.symm]
  rfl

theorem next_of_violates (violates : framer.Violates buffer fault) :
    framer.next buffer = .fault fault := by
  cases violates with
  | versionMismatch whole mismatch =>
      have mismatch := mt (Frame.complementary_iff _ _).mp mismatch
      simp only [next, Frame.Header.take_of_mismatch whole mismatch]
  | payloadTooLarge wellFormed large body =>
      simp only [next, Frame.Header.take_toOctets_append wellFormed, if_pos large]

/-- A frame that can be written down is handed out or refused as too large, as its length says. -/
theorem next_encode_append (inverse : frame.inverse = 0xFF ^^^ frame.version)
    (canonical : frame.payloadType.IsCanonical) (short : frame.payload.length < UInt32.size)
    (rest : Octets) :
    framer.next (frame.encode ++ rest) =
      if frame.payload.length ≤ framer.limit.toNat then .frame frame rest
      else .fault (.payloadTooLarge frame.lengthField framer.limit) := by
  split
  · rename_i fits
    exact next_of_admits ⟨inverse, canonical, fits⟩ rest
  · rename_i large
    have wellFormed : frame.header.WellFormed := Frame.header_wellFormed inverse canonical
    have exceeds : framer.limit < frame.header.payloadLength := by
      rw [UInt32.lt_iff_toNat_lt]
      exact Nat.lt_of_lt_of_eq (Nat.not_le.mp large) (Frame.toNat_lengthField short).symm
    rw [Frame.encode_eq, List.append_assoc]
    exact next_of_violates (.payloadTooLarge wellFormed exceeds _)

theorem next_of_unfinished (unfinished : framer.Unfinished buffer fault) :
    framer.next buffer = .wait := by
  cases unfinished with
  | header begun short => simp only [next, Frame.Header.take_of_short short]
  | payload wellFormed admitted short =>
      have admitted := UInt32.not_lt.mpr admitted
      have missing := Octets.takeBlock_eq_none_iff.mpr short
      simp only [next, Frame.Header.take_toOctets_append wellFormed, if_neg admitted, missing]

theorem finish_of_unfinished (unfinished : framer.Unfinished buffer fault) :
    framer.finish buffer = .fault fault := by
  have waits := next_of_unfinished unfinished
  cases unfinished with
  | header begun short =>
      obtain ⟨byte, rest, rfl⟩ := List.exists_cons_of_ne_nil begun
      simp only [finish, waits, Frame.Header.take_of_short short]
  | payload wellFormed admitted short =>
      simp only [finish, waits, Frame.Header.take_toOctets_append wellFormed]
      split
      · rename_i empty
        cases empty
      · rfl

/-- What is no reason to wait is the same at the end of the stream. -/
theorem finish_of_next {outcome : Outcome} (seen : framer.next buffer = outcome)
    (decided : outcome ≠ .wait) : framer.finish buffer = outcome := by
  unfold finish
  split
  · rename_i waits
    exact absurd (seen.symm.trans waits) decided
  · exact seen

/-- A header and a payload of its length are a frame that is admitted if the length is. -/
theorem admits_withPayload {header : Frame.Header} {payload : Octets}
    (wellFormed : header.WellFormed) (admitted : header.payloadLength ≤ framer.limit)
    (length : payload.length = header.payloadLength.toNat) :
    framer.Admits (header.withPayload payload) where
  inverse := (Frame.complementary_iff _ _).mp wellFormed.complementary
  canonical := wellFormed.canonical
  fits := Nat.le_trans (Nat.le_of_eq length) (UInt32.le_iff_toNat_le.mp admitted)

/-- The first bytes of a buffer are a frame, or break the contract, or are the beginning of a
frame. -/
theorem exists_front (framer : Framer) (buffer : Octets) :
    buffer = [] ∨ (∃ frame rest, framer.Admits frame ∧ buffer = frame.encode ++ rest) ∨
      (∃ fault, framer.Violates buffer fault) ∨ ∃ fault, framer.Unfinished buffer fault := by
  by_cases short : buffer.length < 8
  · cases buffer with
    | nil => exact .inl rfl
    | cons byte rest => exact .inr (.inr (.inr ⟨_, .header (List.cons_ne_nil byte rest) short⟩))
  rcases Frame.Header.exists_of_long (Nat.not_lt.mp short) with
    ⟨version, inverse, tail, rfl, whole, mismatch⟩ | ⟨header, body, rfl, wellFormed⟩
  · rw [Frame.complementary_iff] at mismatch
    exact .inr (.inr (.inl ⟨_, .versionMismatch whole mismatch⟩))
  by_cases large : framer.limit < header.payloadLength
  · exact .inr (.inr (.inl ⟨_, .payloadTooLarge wellFormed large body⟩))
  have admitted := UInt32.not_lt.mp large
  by_cases partly : body.length < header.payloadLength.toNat
  · exact .inr (.inr (.inr ⟨_, .payload wellFormed admitted partly⟩))
  -- All of the payload is there: the header and the payload are a frame.
  have length : (body.take header.payloadLength.toNat).length = header.payloadLength.toNat := by
    rw [List.length_take]
    omega
  refine .inr (.inl ⟨header.withPayload (body.take header.payloadLength.toNat),
    body.drop header.payloadLength.toNat, admits_withPayload wellFormed admitted length, ?_⟩)
  calc header.toOctets ++ body
      = header.toOctets ++ (body.take header.payloadLength.toNat ++
          body.drop header.payloadLength.toNat) := by rw [List.take_append_drop]
    _ = _ := by
        rw [Frame.encode_eq, Frame.header_withPayload length, List.append_assoc]
        rfl

/-- What a framer makes of a buffer is what its front says. -/
theorem front (framer : Framer) (buffer : Octets) :
    framer.Front buffer (framer.next buffer) (framer.finish buffer) := by
  rcases framer.exists_front buffer with
    rfl | ⟨frame, rest, admits, rfl⟩ | ⟨fault, violates⟩ | ⟨fault, unfinished⟩
  · exact .nothing
  · have found := next_of_admits admits rest
    rw [finish_of_next found nofun, found]
    exact .frame admits rest
  · have refused := next_of_violates violates
    rw [finish_of_next refused nofun, refused]
    exact .violation violates
  · rw [next_of_unfinished unfinished, finish_of_unfinished unfinished]
    exact .unfinished unfinished

/-! ## What an outcome says about the front -/

/-- A frame is found exactly where its wire form stands, if it is admitted. -/
theorem next_eq_frame_iff :
    framer.next buffer = .frame frame rest ↔
      framer.Admits frame ∧ buffer = frame.encode ++ rest := by
  constructor
  · intro found
    obtain ⟨_, seen⟩ : ∃ final, framer.Front buffer (.frame frame rest) final :=
      ⟨_, found ▸ framer.front buffer⟩
    cases seen with
    | frame admits => exact ⟨admits, rfl⟩
  · rintro ⟨admits, rfl⟩
    exact next_of_admits admits rest

/-- A fault is reported exactly where the contract is broken. -/
theorem next_eq_fault_iff :
    framer.next buffer = .fault fault ↔ framer.Violates buffer fault := by
  constructor
  · intro refused
    obtain ⟨_, seen⟩ : ∃ final, framer.Front buffer (.fault fault) final :=
      ⟨_, refused ▸ framer.front buffer⟩
    cases seen with
    | violation violates => exact violates
  · exact next_of_violates

/-- The end of the stream changes nothing for a frame that is there. -/
theorem finish_eq_frame_iff :
    framer.finish buffer = .frame frame rest ↔
      framer.Admits frame ∧ buffer = frame.encode ++ rest := by
  constructor
  · intro found
    exact next_eq_frame_iff.mp (next_of_finish found)
  · rintro ⟨admits, rfl⟩
    exact finish_of_next (next_of_admits admits rest) nofun

/-- At the end of the stream a fault is reported where the contract is broken and where something is
missing. -/
theorem finish_eq_fault_iff :
    framer.finish buffer = .fault fault ↔
      framer.Violates buffer fault ∨ framer.Unfinished buffer fault := by
  constructor
  · intro refused
    obtain ⟨_, seen⟩ : ∃ outcome, framer.Front buffer outcome (.fault fault) :=
      ⟨_, refused ▸ framer.front buffer⟩
    cases seen with
    | violation violates => exact .inl violates
    | unfinished unfinished => exact .inr unfinished
  · rintro (violates | unfinished)
    · exact finish_of_next (next_of_violates violates) nofun
    · exact finish_of_unfinished unfinished

/-- At the end of the stream only an empty buffer is neither a frame nor a fault. -/
theorem finish_eq_wait_iff : framer.finish buffer = .wait ↔ buffer = [] := by
  constructor
  · intro waits
    obtain ⟨_, seen⟩ : ∃ outcome, framer.Front buffer outcome .wait :=
      ⟨_, waits ▸ framer.front buffer⟩
    cases seen with
    | nothing => rfl
  · rintro rfl
    rfl

end Framer

end DiagnosticGateway
