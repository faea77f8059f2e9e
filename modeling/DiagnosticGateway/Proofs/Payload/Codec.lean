/-
Module: DiagnosticGateway.Proofs.Payload.Codec
Purpose: Typed payloads, read and written again without a loss.
Main exports:
  PayloadCodec, PayloadCodec.Lossless, PayloadCodec.lossless, typed_payloads_lossless
-/
import DiagnosticGateway.Payload.Activation
import DiagnosticGateway.Payload.AliveCheck
import DiagnosticGateway.Payload.Diagnostic
import DiagnosticGateway.Payload.GenericNack

/-!
Each kind of payload has a least length and a number of bytes that are looked at, which depends on
the payload's length where a field at the end may be missing.  For all kinds the same three things
are asked: a value comes back from its own payload, a payload that is read is written again as far as
it was looked at, and it is refused exactly if it is too short.
-/

namespace DiagnosticGateway

/-- How the values of a type travel in frames of one payload type. -/
structure PayloadCodec (Value : Type) where
  payloadType : PayloadType
  toFrame : Value → Frame
  parse : Octets → Except PayloadFault Value

namespace PayloadCodec

variable {Value : Type} {codec : PayloadCodec Value} {minimum : Nat} {significant : Nat → Nat}
  {Legal : Value → Prop}

/-- Nothing is lost between the legal values and their payloads, of which the bytes looked at are
those that are `significant` for the length. -/
structure Lossless (codec : PayloadCodec Value) (minimum : Nat) (significant : Nat → Nat)
    (Legal : Value → Prop) : Prop where
  payloadType_toFrame : ∀ value, (codec.toFrame value).payloadType = codec.payloadType
  parse_payload_iff : ∀ value,
    codec.parse (codec.toFrame value).payload = .ok value ↔ Legal value
  payload_of_parse : ∀ payload value, codec.parse payload = .ok value →
    (codec.toFrame value).payload = payload.take (significant payload.length)
  parse_eq_error_iff : ∀ payload fault, codec.parse payload = .error fault ↔
    payload.length < minimum ∧ fault = .tooShort codec.payloadType minimum payload.length

/-- A codec is lossless if what is long enough is read, and written again as far as it counts. -/
theorem lossless {write : Value → Octets}
    (framed : ∀ value, codec.toFrame value = .ofPayload codec.payloadType (write value))
    (readBack : ∀ value, codec.parse (write value) = .ok value ↔ Legal value)
    (short : ∀ payload, payload.length < minimum →
      codec.parse payload = .error (.tooShort codec.payloadType minimum payload.length))
    (long : ∀ payload, minimum ≤ payload.length →
      ∃ value, codec.parse payload = .ok value ∧
        write value = payload.take (significant payload.length)) :
    codec.Lossless minimum significant Legal where
  payloadType_toFrame value := by
    rw [framed]
    rfl
  parse_payload_iff value := by
    rw [framed]
    exact readBack value
  payload_of_parse payload value parsed := by
    rw [framed]
    rcases Nat.lt_or_ge payload.length minimum with few | enough
    · cases (short payload few).symm.trans parsed
    · obtain ⟨found, read, written⟩ := long payload enough
      cases read.symm.trans parsed
      exact written
  parse_eq_error_iff payload fault := by
    rcases Nat.lt_or_ge payload.length minimum with few | enough
    · rw [short payload few, Except.error.injEq, eq_comm]
      exact (and_iff_right few).symm
    · obtain ⟨found, read, -⟩ := long payload enough
      rw [read]
      exact iff_of_false nofun fun ⟨few, _⟩ => absurd enough (Nat.not_le.mpr few)

end PayloadCodec

/-! ## Activation -/

namespace ActivationRequest

def codec : PayloadCodec ActivationRequest :=
  { payloadType := .routingActivationRequest, toFrame := toFrame, parse := parse }

theorem parse_toOctets (request : ActivationRequest) : parse request.toOctets = .ok request := by
  obtain ⟨source, activationType, reserved, manufacturer⟩ := request
  have layout : ∀ rest,
      parse (Octets.ofWord16 source ++ activationType :: (Octets.ofWord32 reserved ++ rest)) =
        .ok
          { source := source
            activationType := activationType
            reserved := reserved
            manufacturer := (Octets.takeWord32 rest).map Prod.fst } := by
    intro rest
    show Except.ok (ActivationRequest.mk (Octets.word16 _ _) _ (Octets.word32 _ _ _ _) _) = _
    rw [Octets.word16_of_parts, Octets.word32_of_parts]
    rfl
  cases manufacturer with
  | none => exact layout []
  | some word =>
      have read := Octets.takeWord32_ofWord32_append word []
      rw [List.append_nil] at read
      refine (layout (Octets.ofWord32 word)).trans ?_
      rw [read]
      rfl

theorem parse_of_short {payload : Octets} (short : payload.length < 7) :
    parse payload = .error (.tooShort .routingActivationRequest 7 payload.length) := by
  unfold parse
  split
  · simp only [List.length_cons] at short
    omega
  · rfl

/-- The manufacturer's word is looked at if all of it is there. -/
theorem exists_parse {payload : Octets} (long : 7 ≤ payload.length) :
    ∃ request, parse payload = .ok request ∧
      request.toOctets = payload.take (if payload.length < 11 then 7 else 11) := by
  match payload, long with
  | high :: low :: activationType :: first :: second :: third :: fourth :: rest, _ =>
      refine ⟨_, rfl, ?_⟩
      match rest with
      | [] | [_] | [_, _] | [_, _, _] =>
          simp [toOctets, Octets.takeWord32, Octets.ofWord16_word16, Octets.ofWord32_word32]
      | _ :: _ :: _ :: _ :: tail =>
          rw [if_neg (by simp)]
          simp [toOctets, Octets.takeWord32, Octets.ofWord16_word16, Octets.ofWord32_word32]

theorem lossless :
    codec.Lossless 7 (fun length => if length < 11 then 7 else 11) fun _ => True := by
  apply PayloadCodec.lossless fun _ => rfl
  · intro request
    exact iff_of_true request.parse_toOctets trivial
  · intro payload short
    exact parse_of_short short
  · intro payload long
    exact exists_parse long

end ActivationRequest

namespace ActivationCode

/-- No assigned code hides behind `unassigned`. -/
def IsCanonical (code : ActivationCode) : Prop :=
  ∀ raw, code = .unassigned raw →
    raw ∉ [0x00, 0x01, 0x02, 0x03, 0x04, 0x05, 0x06, 0x10, 0x11]

/-- The canonical codes are the meanings of their own codes. -/
theorem ofCode_code_iff {code : ActivationCode} : ofCode code.code = code ↔ code.IsCanonical := by
  cases code with
  | unassigned raw =>
      show ofCode raw = .unassigned raw ↔ _
      unfold ofCode IsCanonical
      split <;> simp_all
  | _ => exact iff_of_true rfl nofun

end ActivationCode

namespace ActivationResponse

def codec : PayloadCodec ActivationResponse :=
  { payloadType := .routingActivationResponse, toFrame := toFrame, parse := parse }

theorem parse_toOctets_iff (response : ActivationResponse) :
    parse response.toOctets = .ok response ↔ response.code.IsCanonical := by
  have read : parse response.toOctets =
      .ok { response with code := .ofCode response.code.code } := by
    show Except.ok
      (ActivationResponse.mk (Octets.word16 _ _) (Octets.word16 _ _) _ (Octets.word32 _ _ _ _)) = _
    rw [Octets.word16_of_parts, Octets.word16_of_parts, Octets.word32_of_parts]
  obtain ⟨entity, tester, code, reserved⟩ := response
  rw [read, ← ActivationCode.ofCode_code_iff]
  simp

theorem parse_of_short {payload : Octets} (short : payload.length < 9) :
    parse payload = .error (.tooShort .routingActivationResponse 9 payload.length) := by
  unfold parse
  split
  · simp only [List.length_cons] at short
    omega
  · rfl

theorem exists_parse {payload : Octets} (long : 9 ≤ payload.length) :
    ∃ response, parse payload = .ok response ∧ response.toOctets = payload.take 9 := by
  match payload, long with
  | _ :: _ :: _ :: _ :: _ :: _ :: _ :: _ :: _ :: rest, _ =>
      refine ⟨_, rfl, ?_⟩
      simp [toOctets, Octets.ofWord16_word16, Octets.ofWord32_word32]

theorem lossless :
    codec.Lossless 9 (fun _ => 9) fun response => response.code.IsCanonical := by
  apply PayloadCodec.lossless fun _ => rfl
  · intro response
    exact response.parse_toOctets_iff
  · intro payload short
    exact parse_of_short short
  · intro payload long
    exact exists_parse long

end ActivationResponse

/-! ## Alive checks -/

namespace AliveCheckRequest

def codec : PayloadCodec AliveCheckRequest :=
  { payloadType := .aliveCheckRequest, toFrame := toFrame, parse := parse }

theorem parse_toOctets (request : AliveCheckRequest) : parse request.toOctets = .ok request := by
  show Except.ok (AliveCheckRequest.mk (Octets.word16 _ _)) = _
  rw [Octets.word16_of_parts]

theorem parse_of_short {payload : Octets} (short : payload.length < 2) :
    parse payload = .error (.tooShort .aliveCheckRequest 2 payload.length) := by
  unfold parse
  split
  · simp only [List.length_cons] at short
    omega
  · rfl

theorem exists_parse {payload : Octets} (long : 2 ≤ payload.length) :
    ∃ request, parse payload = .ok request ∧ request.toOctets = payload.take 2 := by
  match payload, long with
  | _ :: _ :: rest, _ =>
      refine ⟨_, rfl, ?_⟩
      simp [toOctets, Octets.ofWord16_word16]

theorem lossless : codec.Lossless 2 (fun _ => 2) fun _ => True := by
  apply PayloadCodec.lossless fun _ => rfl
  · intro request
    exact iff_of_true request.parse_toOctets trivial
  · intro payload short
    exact parse_of_short short
  · intro payload long
    exact exists_parse long

end AliveCheckRequest

namespace AliveCheckResponse

/-- No payload is refused: one that is too short for an address holds none. -/
def codec : PayloadCodec AliveCheckResponse :=
  { payloadType := .aliveCheckResponse
    toFrame := toFrame
    parse := fun payload => .ok (parse payload) }

theorem parse_toOctets (response : AliveCheckResponse) : parse response.toOctets = response := by
  obtain ⟨source⟩ := response
  cases source with
  | none => rfl
  | some source =>
      have read := Octets.takeWord16_ofWord16_append source []
      rw [List.append_nil] at read
      rw [toOctets, parse, read]
      rfl

theorem toOctets_parse (payload : Octets) :
    (parse payload).toOctets = payload.take (if payload.length < 2 then 0 else 2) := by
  match payload with
  | [] | [_] => rfl
  | _ :: _ :: rest =>
      rw [if_neg (by simp)]
      simp [parse, toOctets, Octets.takeWord16, Octets.ofWord16_word16]

theorem lossless :
    codec.Lossless 0 (fun length => if length < 2 then 0 else 2) fun _ => True := by
  apply PayloadCodec.lossless fun _ => rfl
  · intro response
    exact iff_of_true (congrArg Except.ok response.parse_toOctets) trivial
  · intro payload short
    exact absurd short (Nat.not_lt_zero _)
  · intro payload _
    exact ⟨_, rfl, toOctets_parse payload⟩

end AliveCheckResponse

/-! ## Diagnostic messages -/

namespace DiagnosticMessage

def codec : PayloadCodec DiagnosticMessage :=
  { payloadType := .diagnosticMessage, toFrame := toFrame, parse := parse }

/-- A message with service data is read back from its payload. -/
theorem parse_toOctets {source target : UInt16} {first : UInt8} {rest : Octets} :
    parse (toOctets { source := source, target := target, userData := first :: rest }) =
      .ok { source := source, target := target, userData := first :: rest } := by
  simp only [toOctets, Octets.ofWord16, parse, List.cons_append, List.nil_append]
  rw [Octets.word16_of_parts, Octets.word16_of_parts]

theorem parse_toOctets_iff (message : DiagnosticMessage) :
    parse message.toOctets = .ok message ↔ message.userData ≠ [] := by
  obtain ⟨source, target, userData⟩ := message
  cases userData with
  | nil => exact iff_of_false nofun fun none => none rfl
  | cons first rest => exact iff_of_true parse_toOctets (List.cons_ne_nil first rest)

theorem parse_of_short {payload : Octets} (short : payload.length < 5) :
    parse payload = .error (.tooShort .diagnosticMessage 5 payload.length) := by
  unfold parse
  split
  · simp only [List.length_cons] at short
    omega
  · rfl

/-- A payload of five bytes or more is a diagnostic message. -/
theorem exists_parse {payload : Octets} (whole : minimumLength ≤ payload.length) :
    ∃ source target service parameters,
      payload = Octets.ofWord16 source ++ (Octets.ofWord16 target ++ service :: parameters) ∧
        parse payload =
          .ok { source := source, target := target, userData := service :: parameters } := by
  match payload, whole with
  | sourceHigh :: sourceLow :: targetHigh :: targetLow :: service :: parameters, _ =>
      refine ⟨Octets.word16 sourceHigh sourceLow, Octets.word16 targetHigh targetLow, service,
        parameters, ?_, rfl⟩
      rw [Octets.ofWord16_word16, Octets.ofWord16_word16]
      rfl

/-- A message is read with at least one byte of service data. -/
theorem exists_of_parse {payload : Octets} {message : DiagnosticMessage}
    (parsed : parse payload = .ok message) :
    ∃ source target service parameters,
      message = { source := source, target := target, userData := service :: parameters } := by
  unfold parse at parsed
  split at parsed
  · cases parsed
    exact ⟨_, _, _, _, rfl⟩
  · cases parsed

theorem lossless :
    codec.Lossless 5 (fun length => length) fun message => message.userData ≠ [] := by
  apply PayloadCodec.lossless fun _ => rfl
  · intro message
    exact message.parse_toOctets_iff
  · intro payload short
    exact parse_of_short short
  · intro payload long
    obtain ⟨source, target, service, parameters, rfl, parsed⟩ := exists_parse long
    exact ⟨_, parsed, (List.take_length).symm⟩

end DiagnosticMessage

namespace Acknowledgement

def positiveCodec : PayloadCodec Acknowledgement :=
  { payloadType := .diagnosticMessageAck
    toFrame := toPositiveFrame
    parse := parse .diagnosticMessageAck }

def negativeCodec : PayloadCodec Acknowledgement :=
  { payloadType := .diagnosticMessageNack
    toFrame := toNegativeFrame
    parse := parse .diagnosticMessageNack }

variable {payloadType : PayloadType}

theorem parse_toOctets (acknowledgement : Acknowledgement) :
    parse payloadType acknowledgement.toOctets = .ok acknowledgement := by
  show Except.ok (Acknowledgement.mk (Octets.word16 _ _) (Octets.word16 _ _) _) = _
  rw [Octets.word16_of_parts, Octets.word16_of_parts]

theorem parse_of_short {payload : Octets} (short : payload.length < 5) :
    parse payloadType payload = .error (.tooShort payloadType 5 payload.length) := by
  unfold parse
  split
  · simp only [List.length_cons] at short
    omega
  · rfl

theorem exists_parse {payload : Octets} (long : 5 ≤ payload.length) :
    ∃ acknowledgement, parse payloadType payload = .ok acknowledgement ∧
      acknowledgement.toOctets = payload.take 5 := by
  match payload, long with
  | _ :: _ :: _ :: _ :: _ :: rest, _ =>
      refine ⟨_, rfl, ?_⟩
      simp [toOctets, Octets.ofWord16_word16]

/-- Which of the two an acknowledgement is makes no difference to its bytes. -/
theorem lossless {codec : PayloadCodec Acknowledgement}
    (framed : ∀ acknowledgement,
      codec.toFrame acknowledgement = .ofPayload codec.payloadType acknowledgement.toOctets)
    (parsed : codec.parse = parse codec.payloadType) :
    codec.Lossless 5 (fun _ => 5) fun _ => True := by
  apply PayloadCodec.lossless framed
  · intro acknowledgement
    rw [parsed]
    exact iff_of_true acknowledgement.parse_toOctets trivial
  · intro payload short
    rw [parsed]
    exact parse_of_short short
  · intro payload long
    rw [parsed]
    exact exists_parse long

end Acknowledgement

/-! ## Refusals of a frame -/

namespace GenericNackCode

def codec : PayloadCodec GenericNackCode :=
  { payloadType := .genericNack, toFrame := toFrame, parse := parse }

/-- No assigned code hides behind `unassigned`. -/
def IsCanonical (reason : GenericNackCode) : Prop :=
  ∀ code, reason = .unassigned code → code ∉ [0x00, 0x01, 0x02, 0x03, 0x04]

/-- The canonical reasons are the meanings of their own codes. -/
theorem ofCode_code_iff {reason : GenericNackCode} :
    ofCode reason.code = reason ↔ reason.IsCanonical := by
  cases reason with
  | unassigned code =>
      show ofCode code = .unassigned code ↔ _
      unfold ofCode IsCanonical
      split <;> simp_all
  | _ => exact iff_of_true rfl nofun

theorem parse_toOctets_iff (reason : GenericNackCode) :
    parse reason.toOctets = .ok reason ↔ reason.IsCanonical := by
  show Except.ok (ofCode reason.code) = .ok reason ↔ _
  rw [Except.ok.injEq, ofCode_code_iff]

theorem parse_of_short {payload : Octets} (short : payload.length < 1) :
    parse payload = .error (.tooShort .genericNack 1 payload.length) := by
  rw [List.eq_nil_of_length_eq_zero (Nat.lt_one_iff.mp short)]
  rfl

theorem exists_parse {payload : Octets} (long : 1 ≤ payload.length) :
    ∃ reason, parse payload = .ok reason ∧ reason.toOctets = payload.take 1 := by
  match payload, long with
  | code :: rest, _ =>
      refine ⟨_, rfl, ?_⟩
      simp [toOctets]

theorem lossless : codec.Lossless 1 (fun _ => 1) IsCanonical := by
  apply PayloadCodec.lossless fun _ => rfl
  · intro reason
    exact reason.parse_toOctets_iff
  · intro payload short
    exact parse_of_short short
  · intro payload long
    exact exists_parse long

end GenericNackCode

/-- Payloads of every kind are read back as what was written, if its codes are canonical and a
diagnostic message has service data.  What is read is written again with the bytes that were looked
at: all of a diagnostic message, the seven bytes of an activation request or eleven if there are as
many, the two bytes of an address in the answer to an alive check if they are there, and a fixed
number otherwise.  A payload is refused exactly if it is shorter than the least of its kind. -/
theorem typed_payloads_lossless :
    ActivationRequest.codec.Lossless 7 (fun length => if length < 11 then 7 else 11)
      (fun _ => True) ∧
    ActivationResponse.codec.Lossless 9 (fun _ => 9) (fun response => response.code.IsCanonical) ∧
    AliveCheckRequest.codec.Lossless 2 (fun _ => 2) (fun _ => True) ∧
    AliveCheckResponse.codec.Lossless 0 (fun length => if length < 2 then 0 else 2)
      (fun _ => True) ∧
    DiagnosticMessage.codec.Lossless 5 (fun length => length)
      (fun message => message.userData ≠ []) ∧
    Acknowledgement.positiveCodec.Lossless 5 (fun _ => 5) (fun _ => True) ∧
    Acknowledgement.negativeCodec.Lossless 5 (fun _ => 5) (fun _ => True) ∧
    GenericNackCode.codec.Lossless 1 (fun _ => 1) GenericNackCode.IsCanonical := by
  refine ⟨ActivationRequest.lossless, ActivationResponse.lossless, AliveCheckRequest.lossless,
    AliveCheckResponse.lossless, DiagnosticMessage.lossless, ?positive, ?negative,
    GenericNackCode.lossless⟩
  case positive => exact Acknowledgement.lossless (fun _ => rfl) rfl
  case negative => exact Acknowledgement.lossless (fun _ => rfl) rfl

/-- Three bytes behind the reserved ones are not a manufacturer's word, and are not written again. -/
example :
    (ActivationRequest.parse [0x0E, 0x00, 0x00, 0, 0, 0, 0, 0xDE, 0xAD, 0xBE]).map
        ActivationRequest.toOctets =
      .ok [0x0E, 0x00, 0x00, 0, 0, 0, 0] := rfl

end DiagnosticGateway
