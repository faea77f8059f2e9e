/-
Module: DiagnosticGateway.Proofs.Uds.Request
Purpose: The grammar of requests, and its agreement with the reader.
Main exports:
  UdsRequest.read, UdsRequest.Written, UdsRequest.Malformed, UdsRequest.read_eq_ok_iff,
  UdsRequest.read_eq_error_iff, requests_read_by_grammar
-/
import DiagnosticGateway.Uds.Request
import DiagnosticGateway.Proofs.Octets.BigEndian
import DiagnosticGateway.Proofs.Uds.Message

/-!
A request goes through two readers: one splits the message, the other lays the fields of the service
over its data.  What they accept together is a grammar with one production for each service; what
they refuse has one first thing wrong about it, and the order in which the things are looked at
decides the response code.
-/

namespace DiagnosticGateway

/-- The services that open, fill and close a download. -/
def Service.programming : List UInt8 :=
  [Service.requestDownload, Service.transferData, Service.requestTransferExit]

/-- The services that some request is granted for. -/
def Service.offered : List UInt8 :=
  readDataByIdentifier :: routineControl :: programming

theorem Service.mem_offered_iff {service : UInt8} :
    service ∈ offered ↔
      service = readDataByIdentifier ∨ service = routineControl ∨ service = requestDownload ∨
        service = transferData ∨ service = requestTransferExit := by
  simp [offered, programming]

namespace UdsRequest

variable {bytes : Octets} {request : UdsRequest} {fault : UdsFault}

/-! ## Requests as a grammar -/

/-- Bytes of the address in a download request. -/
def addressWidth (widths : UInt8) : Nat := widths.toNat % 16

/-- Bytes of the size in a download request. -/
def sizeWidth (widths : UInt8) : Nat := widths.toNat / 16

/-- Each of the two fields of a download request is given one to four bytes. -/
def SupportedWidths (widths : UInt8) : Prop :=
  FieldWidth (addressWidth widths) ∧ FieldWidth (sizeWidth widths)

instance (widths : UInt8) : Decidable (SupportedWidths widths) :=
  inferInstanceAs (Decidable (FieldWidth (addressWidth widths) ∧ FieldWidth (sizeWidth widths)))

/-- The written forms of a request.  What follows a data identifier is not looked at, and any width
that is sufficient for a field will do. -/
inductive Written : UdsRequest → Octets → Prop where
  | readDataByIdentifier (identifier : UInt16) (rest : Octets) :
      Written (.readDataByIdentifier identifier)
        (Service.readDataByIdentifier :: (Octets.bigEndian 2 identifier.toNat ++ rest))
  | routineControl (subFunction : UInt8) (routine : UInt16) (options : Octets) :
      Written (.routineControl subFunction routine options)
        (Service.routineControl :: subFunction ::
          (Octets.bigEndian 2 routine.toNat ++ options))
  | requestDownload (dataFormat : UInt8) {widths : UInt8} {address size : UInt32}
      (supported : SupportedWidths widths)
      (addressFits : address.toNat < 256 ^ addressWidth widths)
      (sizeFits : size.toNat < 256 ^ sizeWidth widths) :
      Written (.requestDownload dataFormat address size)
        (Service.requestDownload :: dataFormat :: widths ::
          (Octets.bigEndian (addressWidth widths) address.toNat ++
            Octets.bigEndian (sizeWidth widths) size.toNat))
  | transferData (counter : UInt8) (data : Octets) :
      Written (.transferData counter data) (Service.transferData :: counter :: data)
  | requestTransferExit (parameters : Octets) :
      Written (.requestTransferExit parameters) (Service.requestTransferExit :: parameters)
  | unsupported {service : UInt8} (other : service ∉ Service.offered) (rest : Octets) :
      Written (.unsupported service) (service :: rest)

/-- Bytes that are not a request, with the first thing that is wrong about them. -/
inductive Malformed : Octets → UdsFault → Prop where
  | empty : Malformed [] .emptyMessage
  | dataIdentifier {data : Octets} (short : data.length < 2) :
      Malformed (Service.readDataByIdentifier :: data) (.invalidFormat .missingDataIdentifier)
  | subFunction : Malformed [Service.routineControl] (.invalidFormat .missingSubFunction)
  | routineIdentifier (subFunction : UInt8) {data : Octets} (short : data.length < 2) :
      Malformed (Service.routineControl :: subFunction :: data)
        (.invalidFormat .missingRoutineIdentifier)
  | formatIdentifiers {data : Octets} (short : data.length < 2) :
      Malformed (Service.requestDownload :: data) (.invalidFormat .missingFormatIdentifiers)
  | fieldWidths (dataFormat : UInt8) {widths : UInt8} (fields : Octets)
      (unsupported : ¬SupportedWidths widths) :
      Malformed (Service.requestDownload :: dataFormat :: widths :: fields)
        (.unsupportedFieldWidths widths)
  | fieldLengths (dataFormat : UInt8) {widths : UInt8} {fields : Octets}
      (supported : SupportedWidths widths)
      (other : fields.length ≠ addressWidth widths + sizeWidth widths) :
      Malformed (Service.requestDownload :: dataFormat :: widths :: fields)
        (.invalidFormat
          (.wrongLength (2 + addressWidth widths + sizeWidth widths) (2 + fields.length)))
  | blockCounter : Malformed [Service.transferData] (.invalidFormat .missingBlockCounter)

/-- A download request with a field to which none of the supported widths is given. -/
def BadWidths (bytes : Octets) : Prop :=
  ∃ dataFormat widths fields, ¬SupportedWidths widths ∧
    bytes = Service.requestDownload :: dataFormat :: widths :: fields

/-! ## The two readers -/

/-- Read a byte string as a request of its service. -/
def read (bytes : Octets) : Except UdsFault UdsRequest := UdsMessage.decode bytes >>= parse

theorem read_of_decode {message : UdsMessage} (decoded : UdsMessage.decode bytes = .ok message) :
    read bytes = parse message := by
  rw [read, decoded]
  rfl

/-- Of a service without a sub-function the second reader sees all bytes. -/
theorem read_of_whole {service : UInt8} (whole : Service.hasSubFunction service = false)
    (data : Octets) :
    read (service :: data) =
      parse { service := service, subFunction := none, data := data } :=
  read_of_decode (UdsMessage.decode_of_whole whole data)

theorem parse_of_unsupported {message : UdsMessage} (other : message.service ∉ Service.offered) :
    parse message = .ok (.unsupported message.service) := by
  simp only [Service.mem_offered_iff, not_or] at other
  obtain ⟨readData, routine, download, transfer, exit⟩ := other
  rw [parse, if_neg readData, if_neg routine, if_neg download, if_neg transfer, if_neg exit]

theorem parseDownload_of_supported (dataFormat : UInt8) {widths : UInt8} (fields : Octets)
    (supported : SupportedWidths widths) :
    parseDownload (dataFormat :: widths :: fields) =
      if fields.length = addressWidth widths + sizeWidth widths then
        .ok
          (.requestDownload dataFormat
            (UInt32.ofNat (Octets.value (fields.take (addressWidth widths))))
            (UInt32.ofNat (Octets.value (fields.drop (addressWidth widths)))))
      else
        .error (.invalidFormat
          (.wrongLength (2 + addressWidth widths + sizeWidth widths) (2 + fields.length))) := by
  have length : (dataFormat :: widths :: fields).length = 2 + fields.length := by
    simp only [List.length_cons]
    omega
  simp only [parseDownload, length]
  exact if_pos supported

theorem service_of_parseDownload {data : Octets} (parsed : parseDownload data = .ok request) :
    request.service = Service.requestDownload := by
  unfold parseDownload at parsed
  dsimp only at parsed
  split at parsed
  · split at parsed
    · split at parsed
      · cases parsed
        rfl
      · cases parsed
    · cases parsed
  · cases parsed

/-- A message is a request of the service that its first byte names. -/
theorem service_of_parse {message : UdsMessage} (parsed : parse message = .ok request) :
    request.service = message.service := by
  unfold parse at parsed
  split at parsed
  · rename_i service
    split at parsed <;> cases parsed
    exact service.symm
  split at parsed
  · rename_i service
    split at parsed <;> cases parsed
    exact service.symm
  split at parsed
  · rename_i service
    exact (service_of_parseDownload parsed).trans service.symm
  split at parsed
  · rename_i service
    split at parsed <;> cases parsed
    exact service.symm
  split at parsed
  · rename_i service
    cases parsed
    exact service.symm
  · cases parsed
    rfl

/-! ## Fields of a download request -/

/-- A field of a supported width holds a word. -/
theorem toNat_value {width : Nat} {field : Octets} (supported : FieldWidth width)
    (length : field.length = width) :
    (UInt32.ofNat (Octets.value field)).toNat = Octets.value field := by
  apply UInt32.toNat_ofNat_of_lt
  calc
    Octets.value field < 256 ^ field.length := Octets.value_lt field
    _ = 256 ^ width := by rw [length]
    _ ≤ 256 ^ 4 := Nat.pow_le_pow_right (by decide) supported.2
    _ = UInt32.size := rfl

/-- The fields are read from the widths that they were written in. -/
theorem parseDownload_of_written (dataFormat : UInt8) {widths : UInt8} {address size : UInt32}
    (supported : SupportedWidths widths) (addressFits : address.toNat < 256 ^ addressWidth widths)
    (sizeFits : size.toNat < 256 ^ sizeWidth widths) :
    parseDownload
        (dataFormat :: widths ::
          (Octets.bigEndian (addressWidth widths) address.toNat ++
            Octets.bigEndian (sizeWidth widths) size.toNat)) =
      .ok (.requestDownload dataFormat address size) := by
  have width := Octets.length_bigEndian (addressWidth widths) address.toNat
  rw [parseDownload_of_supported dataFormat _ supported, if_pos (by simp),
    List.take_left' width, List.drop_left' width, Octets.value_bigEndian addressFits,
    Octets.value_bigEndian sizeFits, UInt32.ofNat_toNat, UInt32.ofNat_toNat]

/-- Fields that fill the widths given are an address and a size. -/
theorem exists_fields {widths : UInt8} {fields : Octets} (supported : SupportedWidths widths)
    (length : fields.length = addressWidth widths + sizeWidth widths) :
    ∃ address size : UInt32,
      address.toNat < 256 ^ addressWidth widths ∧ size.toNat < 256 ^ sizeWidth widths ∧
        fields = Octets.bigEndian (addressWidth widths) address.toNat ++
          Octets.bigEndian (sizeWidth widths) size.toNat := by
  have front : (fields.take (addressWidth widths)).length = addressWidth widths := by
    rw [List.length_take]
    omega
  have back : (fields.drop (addressWidth widths)).length = sizeWidth widths := by
    rw [List.length_drop]
    omega
  have address := toNat_value supported.1 front
  have size := toNat_value supported.2 back
  have addressFits := Octets.value_lt (fields.take (addressWidth widths))
  have sizeFits := Octets.value_lt (fields.drop (addressWidth widths))
  have addressBytes := Octets.bigEndian_value (fields.take (addressWidth widths))
  have sizeBytes := Octets.bigEndian_value (fields.drop (addressWidth widths))
  rw [front] at addressFits addressBytes
  rw [back] at sizeFits sizeBytes
  refine ⟨_, _, address ▸ addressFits, size ▸ sizeFits, ?_⟩
  rw [address, size, addressBytes, sizeBytes, List.take_append_drop]

/-! ## Agreement -/

theorem read_of_written (written : Written request bytes) : read bytes = .ok request := by
  cases written with
  | readDataByIdentifier identifier rest =>
      rw [read_of_whole (by decide), Octets.bigEndian_toNat]
      show Except.ok (UdsRequest.readDataByIdentifier (Octets.word16 _ _)) = _
      rw [Octets.word16_of_parts]
  | routineControl subFunction routine options =>
      rw [Octets.bigEndian_toNat, read_of_decode (UdsMessage.decode_of_split (by decide) _ _)]
      show Except.ok (UdsRequest.routineControl subFunction (Octets.word16 _ _) options) = _
      rw [Octets.word16_of_parts]
  | requestDownload dataFormat supported addressFits sizeFits =>
      rw [read_of_whole (by decide)]
      exact parseDownload_of_written dataFormat supported addressFits sizeFits
  | transferData counter data =>
      rw [read_of_whole (by decide)]
      rfl
  | requestTransferExit parameters =>
      rw [read_of_whole (by decide)]
      rfl
  | @unsupported service other rest =>
      obtain ⟨message, decoded⟩ := UdsMessage.exists_decode service rest
      obtain rfl : service = message.service :=
        Option.some.inj (UdsMessage.head?_of_decode decoded)
      rw [read_of_decode decoded, parse_of_unsupported other]

theorem read_of_malformed (malformed : Malformed bytes fault) : read bytes = .error fault := by
  cases malformed with
  | empty => rfl
  | @dataIdentifier data short =>
      rw [read_of_whole (by decide)]
      match data, short with
      | [], _ => rfl
      | [_], _ => rfl
  | subFunction => rfl
  | @routineIdentifier subFunction data short =>
      rw [read_of_decode (UdsMessage.decode_of_split (by decide) subFunction data)]
      match data, short with
      | [], _ => rfl
      | [_], _ => rfl
  | @formatIdentifiers data short =>
      rw [read_of_whole (by decide)]
      match data, short with
      | [], _ => rfl
      | [_], _ => rfl
  | fieldWidths dataFormat fields unsupported =>
      rw [read_of_whole (by decide)]
      exact if_neg unsupported
  | fieldLengths dataFormat supported other =>
      rw [read_of_whole (by decide)]
      exact (parseDownload_of_supported dataFormat _ supported).trans (if_neg other)
  | blockCounter => rfl

/-- Bytes are the written form of a request, or something is wrong about them. -/
theorem written_or_malformed (bytes : Octets) :
    (∃ request, Written request bytes) ∨ ∃ fault, Malformed bytes fault := by
  cases bytes with
  | nil => exact .inr ⟨_, .empty⟩
  | cons service data =>
      by_cases offered : service ∈ Service.offered
      case neg => exact .inl ⟨_, .unsupported offered data⟩
      rcases Service.mem_offered_iff.mp offered with rfl | rfl | rfl | rfl | rfl
      · match data with
        | high :: low :: rest =>
            have written := Written.readDataByIdentifier (Octets.word16 high low) rest
            rw [Octets.bigEndian_toNat, Octets.ofWord16_word16] at written
            exact .inl ⟨_, written⟩
        | [] | [_] => exact .inr ⟨_, .dataIdentifier (by simp)⟩
      · match data with
        | subFunction :: high :: low :: options =>
            have written := Written.routineControl subFunction (Octets.word16 high low) options
            rw [Octets.bigEndian_toNat, Octets.ofWord16_word16] at written
            exact .inl ⟨_, written⟩
        | [] => exact .inr ⟨_, .subFunction⟩
        | [_] | [_, _] => exact .inr ⟨_, .routineIdentifier _ (by simp)⟩
      · match data with
        | dataFormat :: widths :: fields =>
            -- The widths are looked at before the length that they ask for.
            by_cases supported : SupportedWidths widths
            case neg => exact .inr ⟨_, .fieldWidths dataFormat fields supported⟩
            by_cases length : fields.length = addressWidth widths + sizeWidth widths
            case neg => exact .inr ⟨_, .fieldLengths dataFormat supported length⟩
            obtain ⟨address, size, addressFits, sizeFits, rfl⟩ := exists_fields supported length
            exact .inl ⟨_, .requestDownload dataFormat supported addressFits sizeFits⟩
        | [] | [_] => exact .inr ⟨_, .formatIdentifiers (by simp)⟩
      · match data with
        | counter :: block => exact .inl ⟨_, .transferData counter block⟩
        | [] => exact .inr ⟨_, .blockCounter⟩
      · exact .inl ⟨_, .requestTransferExit data⟩

/-- Nothing but the written forms of a request is read as the request. -/
theorem read_eq_ok_iff : read bytes = .ok request ↔ Written request bytes := by
  constructor
  · intro accepted
    rcases written_or_malformed bytes with ⟨other, written⟩ | ⟨fault, malformed⟩
    · cases (read_of_written written).symm.trans accepted
      exact written
    · exact absurd ((read_of_malformed malformed).symm.trans accepted) nofun
  · exact read_of_written

/-- The fault is the first thing that is wrong about the bytes. -/
theorem read_eq_error_iff : read bytes = .error fault ↔ Malformed bytes fault := by
  constructor
  · intro refused
    rcases written_or_malformed bytes with ⟨other, written⟩ | ⟨found, malformed⟩
    · exact absurd ((read_of_written written).symm.trans refused) nofun
    · cases (read_of_malformed malformed).symm.trans refused
      exact malformed
  · exact read_of_malformed

/-- Widths that are not supported are answered with a code of their own. -/
theorem Malformed.code_eq (malformed : Malformed bytes fault) :
    BadWidths bytes ∧ fault.code = .requestOutOfRange ∨
      ¬BadWidths bytes ∧ fault.code = .incorrectMessageLengthOrFormat := by
  by_cases bad : BadWidths bytes
  · obtain ⟨dataFormat, widths, fields, unsupported, rfl⟩ := bad
    have refused := read_of_malformed (.fieldWidths dataFormat fields unsupported)
    cases (read_of_malformed malformed).symm.trans refused
    exact .inl ⟨⟨dataFormat, widths, fields, unsupported, rfl⟩, rfl⟩
  · refine .inr ⟨bad, ?_⟩
    cases malformed with
    | fieldWidths dataFormat fields unsupported =>
        exact absurd ⟨dataFormat, _, fields, unsupported, rfl⟩ bad
    | empty | dataIdentifier | subFunction | routineIdentifier | formatIdentifiers
    | fieldLengths | blockCounter => rfl

/-- One byte gives any two supported widths. -/
theorem exists_widths {address size : Nat} (addressWide : FieldWidth address)
    (sizeWide : FieldWidth size) :
    ∃ widths, addressWidth widths = address ∧ sizeWidth widths = size := by
  obtain ⟨-, addressBound⟩ := addressWide
  obtain ⟨-, sizeBound⟩ := sizeWide
  have byte : (UInt8.ofNat (16 * size + address)).toNat = 16 * size + address :=
    UInt8.toNat_ofNat_of_lt (by
      show 16 * size + address < 256
      omega)
  refine ⟨UInt8.ofNat (16 * size + address), ?_, ?_⟩
  · rw [addressWidth, byte]
    omega
  · rw [sizeWidth, byte]
    omega

end UdsRequest

/-- Bytes are read as a request exactly if they are a written form of it.  All others are refused
with the first thing that is wrong about them: a download request that has both format bytes, of
which the second gives a width that is not supported, is out of range, and everything else is of the
wrong length or format.  An address and a size can be written in any two supported widths that are
sufficient for them. -/
theorem requests_read_by_grammar :
    (∀ bytes request, UdsRequest.read bytes = .ok request ↔ UdsRequest.Written request bytes) ∧
    (∀ bytes, (∀ request, ¬UdsRequest.Written request bytes) →
      ∃ fault, UdsRequest.read bytes = .error fault ∧ UdsRequest.Malformed bytes fault ∧
        (UdsRequest.BadWidths bytes ∧ fault.code.code = 0x31 ∨
          ¬UdsRequest.BadWidths bytes ∧ fault.code.code = 0x13)) ∧
    ∀ (address size : UInt32) (addressWidth sizeWidth : Nat),
      UdsRequest.FieldWidth addressWidth → address.toNat < 256 ^ addressWidth →
      UdsRequest.FieldWidth sizeWidth → size.toNat < 256 ^ sizeWidth →
      ∃ widths : UInt8,
        widths.toNat % 16 = addressWidth ∧ widths.toNat / 16 = sizeWidth ∧
          ∀ dataFormat,
            UdsRequest.read
                (0x34 :: dataFormat :: widths ::
                  (Octets.bigEndian addressWidth address.toNat ++
                    Octets.bigEndian sizeWidth size.toNat)) =
              .ok (.requestDownload dataFormat address size) := by
  refine ⟨?accepted, ?refused, ?reached⟩
  case accepted =>
    intro bytes request
    exact UdsRequest.read_eq_ok_iff
  case refused =>
    intro bytes unwritten
    obtain ⟨fault, malformed⟩ := (UdsRequest.written_or_malformed bytes).resolve_left
      fun ⟨request, written⟩ => unwritten request written
    refine ⟨fault, UdsRequest.read_of_malformed malformed, malformed, ?_⟩
    rcases malformed.code_eq with ⟨bad, code⟩ | ⟨good, code⟩
    · exact .inl ⟨bad, code ▸ rfl⟩
    · exact .inr ⟨good, code ▸ rfl⟩
  case reached =>
    rintro address size addressWidth sizeWidth addressWide addressFits sizeWide sizeFits
    obtain ⟨widths, rfl, rfl⟩ := UdsRequest.exists_widths addressWide sizeWide
    refine ⟨widths, rfl, rfl, fun dataFormat => ?_⟩
    exact UdsRequest.read_of_written
      (.requestDownload dataFormat ⟨addressWide, sizeWide⟩ addressFits sizeFits)

/-- An address width of five is out of range, although the fields are too short for any width, and
fields that are too short for supported widths are of the wrong length.  An address in three bytes
and a size in two are read. -/
theorem requests_read_by_grammar_sample :
    (∃ fault, UdsRequest.read [0x34, 0x00, 0x05, 0x00] = .error fault ∧ fault.code.code = 0x31) ∧
    (∃ fault, UdsRequest.read [0x34, 0x00, 0x44, 0x00, 0x10] = .error fault ∧
      fault.code.code = 0x13) ∧
    ∃ widths : UInt8,
      UdsRequest.read
          (0x34 :: 0x00 :: widths ::
            (Octets.bigEndian 3 (0x100000 : UInt32).toNat ++
              Octets.bigEndian 2 (256 : UInt32).toNat)) =
        .ok (.requestDownload 0x00 0x100000 256) := by
  obtain ⟨accepted, refused, reached⟩ := requests_read_by_grammar
  have unwritten : ∀ bytes fault, UdsRequest.read bytes = .error fault →
      ∀ request, ¬UdsRequest.Written request bytes := by
    intro bytes fault failed request written
    cases failed.symm.trans ((accepted bytes request).mpr written)
  refine ⟨?outOfRange, ?wrongLength, ?reached⟩
  case outOfRange =>
    obtain ⟨fault, failed, -, ⟨-, code⟩ | ⟨good, -⟩⟩ :=
      refused [0x34, 0x00, 0x05, 0x00] (unwritten _ (.unsupportedFieldWidths 0x05) rfl)
    · exact ⟨fault, failed, code⟩
    · exact absurd ⟨0x00, 0x05, [0x00], by decide, rfl⟩ good
  case wrongLength =>
    obtain ⟨fault, failed, -, ⟨bad, -⟩ | ⟨-, code⟩⟩ :=
      refused [0x34, 0x00, 0x44, 0x00, 0x10]
        (unwritten _ (.invalidFormat (.wrongLength 10 4)) rfl)
    · obtain ⟨dataFormat, widths, fields, unsupported, same⟩ := bad
      cases same
      exact absurd (by decide) unsupported
    · exact ⟨fault, failed, code⟩
  case reached =>
    obtain ⟨widths, -, -, read⟩ :=
      reached 0x100000 256 3 2 (by decide) (by decide) (by decide) (by decide)
    exact ⟨widths, read 0x00⟩

end DiagnosticGateway
