/-
Module: DiagnosticGateway.Proofs.Uds.Message
Purpose: The messages that come back from their bytes, and the services that split off a byte.
Main exports:
  Service.hasSubFunction_iff, UdsMessage.WellFormed, UdsMessage.decode_eq_ok_iff,
  messages_read_back
-/
import DiagnosticGateway.Uds.Message

/-!
Whether the second byte of a message is a sub-function is not written anywhere in the message: it
follows from the service, by a table of requests that holds for their positive responses as well.  A
message that was put together by hand is read back only if it was put together in the same way.
-/

namespace DiagnosticGateway

namespace Service

variable {service : UInt8}

/-! ## Services with a sub-function -/

/-- What is added to a request's identifier marks it as that of a response. -/
theorem isResponseId_responseId (request : isResponseId service = false) :
    isResponseId (responseId service) = true := by
  have marked : ∀ bits : BitVec 8, bits &&& 0x40#8 = 0#8 → ¬(bits + 0x40#8) &&& 0x40#8 = 0#8 := by
    decide
  simp only [isResponseId, bne_eq_false_iff_eq, ← UInt8.toBitVec_inj] at request
  simp only [isResponseId, responseId, bne_iff_ne, ne_eq, ← UInt8.toBitVec_inj]
  exact marked service.toBitVec request

/-- A positive response belongs to the request that it answers. -/
theorem requestId_responseId (request : isResponseId service = false) :
    requestId (responseId service) = service := by
  rw [requestId, if_pos (isResponseId_responseId request), responseId, UInt8.add_sub_cancel]

theorem isResponseId_of_withSubFunction :
    ∀ request ∈ withSubFunction, isResponseId request = false := by
  have all : (withSubFunction.all fun request => isResponseId request == false) = true := by
    decide
  intro request listed
  exact beq_iff_eq.mp (List.all_eq_true.mp all request listed)

/-- The services with a sub-function are the requests of the table and the positive responses to
them. -/
theorem hasSubFunction_iff :
    hasSubFunction service = true ↔
      ∃ request ∈ withSubFunction, service = request ∨ service = responseId request := by
  rw [hasSubFunction, List.contains_iff_mem]
  constructor
  · intro listed
    refine ⟨requestId service, listed, ?_⟩
    cases marked : isResponseId service with
    | false => simp [requestId, marked]
    | true => simp [requestId, responseId, marked]
  · rintro ⟨request, listed, rfl | rfl⟩
    · rwa [requestId, isResponseId_of_withSubFunction _ listed]
    · rwa [requestId_responseId (isResponseId_of_withSubFunction request listed)]

end Service

namespace UdsMessage

variable {bytes : Octets} {message : UdsMessage}

/-! ## Splitting -/

/-- The second byte of a service with a sub-function is split off. -/
theorem decode_of_split {service : UInt8} (split : Service.hasSubFunction service = true)
    (second : UInt8) (rest : Octets) :
    decode (service :: second :: rest) =
      .ok { service := service, subFunction := some second, data := rest } := by
  simp [decode, split]

/-- Of any other service all bytes are data. -/
theorem decode_of_whole {service : UInt8} (whole : Service.hasSubFunction service = false)
    (data : Octets) :
    decode (service :: data) = .ok { service := service, subFunction := none, data := data } := by
  cases data with
  | nil => rfl
  | cons second rest => simp [decode, whole]

/-- One byte is enough for a message. -/
theorem exists_decode (service : UInt8) (parameters : Octets) :
    ∃ message, decode (service :: parameters) = .ok message := by
  cases parameters with
  | nil => exact ⟨_, rfl⟩
  | cons second rest =>
      simp only [decode]
      split
      · exact ⟨_, rfl⟩
      · exact ⟨_, rfl⟩

/-- Only the empty byte string is no message. -/
theorem decode_eq_error_iff {fault : UdsFault} :
    decode bytes = .error fault ↔ bytes = [] ∧ fault = .emptyMessage := by
  cases bytes with
  | nil =>
      rw [decode, Except.error.injEq, eq_comm]
      exact (and_iff_right rfl).symm
  | cons service parameters =>
      obtain ⟨message, decoded⟩ := exists_decode service parameters
      rw [decoded]
      exact iff_of_false nofun nofun

/-- A message holds the bytes that it was split from. -/
theorem encode_of_decode (decoded : decode bytes = .ok message) : message.encode = bytes := by
  unfold decode at decoded
  split at decoded
  · cases decoded
  · cases decoded
    rfl
  · split at decoded
    · cases decoded
      rfl
    · cases decoded
      rfl

/-- A message is of the service that its first byte names. -/
theorem head?_of_decode (decoded : decode bytes = .ok message) :
    bytes.head? = some message.service := by
  rw [← encode_of_decode decoded]
  rfl

/-! ## Messages that are read back -/

/-- A message is split as its service asks for. -/
structure WellFormed (message : UdsMessage) : Prop where
  /-- Nothing is split off if the service has no sub-function. -/
  split : message.subFunction.isSome = true → Service.hasSubFunction message.service = true
  /-- If the service has one, nothing is left behind that could have been split off. -/
  whole : message.subFunction = none →
    Service.hasSubFunction message.service = false ∨ message.data = []

theorem wellFormed_of_decode (decoded : decode bytes = .ok message) : message.WellFormed := by
  unfold decode at decoded
  split at decoded
  · cases decoded
  · cases decoded
    exact ⟨nofun, fun _ => .inr rfl⟩
  · split at decoded
    · rename_i split
      cases decoded
      exact ⟨fun _ => split, nofun⟩
    · rename_i whole
      cases decoded
      exact ⟨nofun, fun _ => .inl (Bool.eq_false_iff.mpr whole)⟩

theorem decode_encode (wellFormed : message.WellFormed) : decode message.encode = .ok message := by
  obtain ⟨service, subFunction, data⟩ := message
  cases subFunction with
  | some second => exact decode_of_split (wellFormed.split rfl) second data
  | none =>
      rcases wellFormed.whole rfl with whole | rfl
      · exact decode_of_whole whole data
      · rfl

/-- Bytes are split into the one well-formed message that they are the bytes of. -/
theorem decode_eq_ok_iff :
    decode bytes = .ok message ↔ message.WellFormed ∧ message.encode = bytes := by
  constructor
  · intro decoded
    exact ⟨wellFormed_of_decode decoded, encode_of_decode decoded⟩
  · rintro ⟨wellFormed, rfl⟩
    exact decode_encode wellFormed

end UdsMessage

/-- Every byte string but the empty one is a message, and nothing of it is lost.  A message is read
back from its bytes exactly if a sub-function is given where the service has one, and is missing only
where the service has none or there is no byte for it.  The services that have one are the requests
of the table and the positive responses to them; a negative response has none. -/
theorem messages_read_back :
    (∀ bytes : Octets, bytes ≠ [] →
      ∃ message, UdsMessage.decode bytes = .ok message ∧ message.encode = bytes) ∧
    (∀ message : UdsMessage, UdsMessage.decode message.encode = .ok message ↔
      (message.subFunction.isSome = true → Service.hasSubFunction message.service = true) ∧
      (message.subFunction = none →
        Service.hasSubFunction message.service = false ∨ message.data = [])) ∧
    (∀ service, Service.hasSubFunction service = true ↔
      ∃ request ∈ Service.withSubFunction,
        service = request ∨ service = Service.responseId request) ∧
    Service.hasSubFunction Service.negativeResponse = false := by
  refine ⟨?whole, ?readBack, ?table, ?negative⟩
  case whole =>
    intro bytes begun
    obtain ⟨service, parameters, rfl⟩ := List.exists_cons_of_ne_nil begun
    obtain ⟨message, decoded⟩ := UdsMessage.exists_decode service parameters
    exact ⟨message, decoded, UdsMessage.encode_of_decode decoded⟩
  case readBack =>
    intro message
    rw [UdsMessage.decode_eq_ok_iff]
    constructor
    · rintro ⟨wellFormed, -⟩
      exact ⟨wellFormed.split, wellFormed.whole⟩
    · rintro ⟨split, whole⟩
      exact ⟨⟨split, whole⟩, rfl⟩
  case table =>
    intro service
    exact Service.hasSubFunction_iff
  case negative => decide

/-- A routine's response is split from its bytes.  Without a sub-function, the same bytes as data
would be split again. -/
theorem messages_read_back_sample :
    (∃ message, UdsMessage.decode [0x71, 0x01, 0xF0, 0x02] = .ok message ∧
      message.encode = [0x71, 0x01, 0xF0, 0x02]) ∧
    UdsMessage.decode
        (UdsMessage.encode
          { service := 0x71, subFunction := some 0x01, data := [0xF0, 0x02] }) =
      .ok { service := 0x71, subFunction := some 0x01, data := [0xF0, 0x02] } ∧
    UdsMessage.decode
        (UdsMessage.encode
          { service := 0x71, subFunction := none, data := [0x01, 0xF0, 0x02] }) ≠
      .ok { service := 0x71, subFunction := none, data := [0x01, 0xF0, 0x02] } := by
  obtain ⟨whole, readBack, table, -⟩ := messages_read_back
  have split : Service.hasSubFunction 0x71 = true :=
    (table 0x71).mpr ⟨Service.routineControl, by decide, .inr rfl⟩
  refine ⟨whole _ (by decide), (readBack _).mpr ⟨fun _ => split, nofun⟩, ?_⟩
  intro decoded
  rcases ((readBack _).mp decoded).2 rfl with unsplit | empty
  · exact absurd (split.symm.trans unsplit) (by decide)
  · cases empty

end DiagnosticGateway
