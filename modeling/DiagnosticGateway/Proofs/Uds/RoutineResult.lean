/-
Module: DiagnosticGateway.Proofs.Uds.RoutineResult
Purpose: The responses of a routine that come back from their bytes.
Main exports:
  RoutineStatus.IsCanonical, RoutineResult.carried, RoutineResult.read_response,
  RoutineResult.carried_eq_iff, routine_results_read_back
-/
import DiagnosticGateway.Uds.RoutineResult
import DiagnosticGateway.Proofs.Uds.Message

/-!
A response ends in a status and a count, either of which may be missing, and neither is marked: the
first byte behind the routine is the status and the second the count.  A count can therefore be
written only behind a status.  Without one it takes the status's place and is read as a status.
-/

namespace DiagnosticGateway

namespace RoutineStatus

/-- No assigned code hides behind `unassigned`. -/
def IsCanonical (status : RoutineStatus) : Prop :=
  ∀ code, status = .unassigned code → code ∉ [0x00, 0x01, 0x02]

/-- The canonical statuses are the meanings of their own codes. -/
theorem ofCode_code_iff {status : RoutineStatus} :
    ofCode status.code = status ↔ status.IsCanonical := by
  cases status with
  | success | notConnected | sendError => exact iff_of_true rfl nofun
  | unassigned code =>
      show ofCode code = .unassigned code ↔ _
      unfold ofCode IsCanonical
      split <;> simp_all

end RoutineStatus

namespace RoutineResult

variable {result : RoutineResult}

/-- The bytes of the response. -/
def response (result : RoutineResult) : Octets :=
  Service.positiveResponse Service.routineControl result.toOctets

/-- Read a byte string as the response of a routine. -/
def read (bytes : Octets) : Except UdsFault RoutineResult := UdsMessage.decode bytes >>= parse

/-- The result that is found where a result was written. -/
def carried (result : RoutineResult) : RoutineResult :=
  match result.status, result.count with
  | some status, _ => { result with status := some (.ofCode status.code) }
  | none, some count => { result with status := some (.ofCode count), count := none }
  | none, none => result

/-- The bytes behind the routine are told apart by their places. -/
theorem parse_of_places (subFunction : UInt8) (routine : UInt16) (rest : Octets) :
    parse
        { service := Service.responseId Service.routineControl
          subFunction := some subFunction
          data := Octets.ofWord16 routine ++ rest } =
      .ok
        { subFunction := subFunction
          routine := routine
          status := rest[0]?.map .ofCode
          count := rest[1]? } := by
  show Except.ok (RoutineResult.mk subFunction (Octets.word16 _ _) _ _) = _
  rw [Octets.word16_of_parts]
  rfl

/-- Every response is read, with what stands in the places of the status and the count. -/
theorem read_response (result : RoutineResult) : read result.response = .ok result.carried := by
  have split : Service.hasSubFunction (Service.responseId Service.routineControl) = true := by
    decide
  rw [read, response, Service.positiveResponse, toOctets, UdsMessage.decode_of_split split]
  refine (parse_of_places result.subFunction result.routine _).trans (congrArg Except.ok ?_)
  obtain ⟨subFunction, routine, status, count⟩ := result
  cases status <;> cases count <;> rfl

/-- Results that the layout has a place for: a count comes behind a status. -/
structure WellFormed (result : RoutineResult) : Prop where
  canonical : ∀ status, result.status = some status → status.IsCanonical
  behind : result.count.isSome = true → result.status.isSome = true

/-- These are the results that are found unchanged. -/
theorem carried_eq_iff : result.carried = result ↔ result.WellFormed := by
  obtain ⟨subFunction, routine, status, count⟩ := result
  cases status with
  | some status =>
      have unchanged :
          carried ⟨subFunction, routine, some status, count⟩ =
              ⟨subFunction, routine, some status, count⟩ ↔
            RoutineStatus.ofCode status.code = status := by
        simp [carried]
      rw [unchanged, RoutineStatus.ofCode_code_iff]
      constructor
      · intro canonical
        refine ⟨?_, fun _ => rfl⟩
        rintro _ ⟨⟩
        exact canonical
      · intro wellFormed
        exact wellFormed.canonical status rfl
  | none =>
      cases count with
      | some count =>
          constructor
          · intro unchanged
            cases congrArg RoutineResult.status unchanged
          · intro wellFormed
            cases wellFormed.behind rfl
      | none => exact iff_of_true rfl ⟨nofun, nofun⟩

end RoutineResult

/-- The results that are read back from their response are those whose status is no assigned code in
disguise and which give a count only with a status, and no two of them have the same bytes.  A count
without a status is written in the status's place and read as a status. -/
theorem routine_results_read_back :
    (∀ result : RoutineResult, RoutineResult.read result.response = .ok result ↔
      (∀ status, result.status = some status → status.IsCanonical) ∧
        (result.count.isSome = true → result.status.isSome = true)) ∧
    (∀ first second : RoutineResult, first.WellFormed → second.WellFormed →
      first.response = second.response → first = second) ∧
    ∀ (result : RoutineResult) (count : UInt8), result.status = none → result.count = some count →
      RoutineResult.read result.response =
        .ok { result with status := some (.ofCode count), count := none } := by
  refine ⟨?readBack, ?distinct, ?displaced⟩
  case readBack =>
    intro result
    rw [RoutineResult.read_response, Except.ok.injEq, RoutineResult.carried_eq_iff]
    constructor
    · rintro ⟨canonical, behind⟩
      exact ⟨canonical, behind⟩
    · rintro ⟨canonical, behind⟩
      exact ⟨canonical, behind⟩
  case distinct =>
    intro first second firstWellFormed secondWellFormed same
    have firstRead := RoutineResult.read_response first
    rw [same, RoutineResult.read_response second,
      RoutineResult.carried_eq_iff.mpr firstWellFormed,
      RoutineResult.carried_eq_iff.mpr secondWellFormed] at firstRead
    exact (Except.ok.inj firstRead).symm
  case displaced =>
    intro result count unstated counted
    rw [RoutineResult.read_response, RoutineResult.carried, unstated, counted]

/-- A routine that has ended well and counts two records. -/
def sampleCountedResult : RoutineResult :=
  { subFunction := 0x01, routine := 0xF002, status := some .success, count := some 2 }

/-- The result is read back.  Without the status, its count is read as a failure to send. -/
theorem routine_results_read_back_sample :
    RoutineResult.read sampleCountedResult.response = .ok sampleCountedResult ∧
    (∀ other : RoutineResult, other.WellFormed →
      sampleCountedResult.response = other.response → sampleCountedResult = other) ∧
    RoutineResult.read { sampleCountedResult with status := none }.response =
      .ok { sampleCountedResult with status := some .sendError, count := none } := by
  obtain ⟨readBack, distinct, displaced⟩ := routine_results_read_back
  have canonical : ∀ status, sampleCountedResult.status = some status → status.IsCanonical := by
    rintro _ ⟨⟩
    exact nofun
  refine ⟨(readBack _).mpr ⟨canonical, fun _ => rfl⟩, ?_, displaced _ 2 rfl rfl⟩
  intro other wellFormed same
  exact distinct _ other ⟨canonical, fun _ => rfl⟩ wellFormed same

/-- Not every result with a canonical status is read back, and not all of them have bytes of their
own: two records that are counted without a status, and a failure to send without a count. -/
theorem count_taken_for_status :
    { sampleCountedResult with status := none }.response =
        { sampleCountedResult with status := some .sendError, count := none }.response ∧
    ¬(∀ result : RoutineResult,
      (∀ status, result.status = some status → status.IsCanonical) →
        RoutineResult.read result.response = .ok result) ∧
    ¬(∀ first second : RoutineResult,
      (∀ status, first.status = some status → status.IsCanonical) →
      (∀ status, second.status = some status → status.IsCanonical) →
        first.response = second.response → first = second) := by
  refine ⟨rfl, ?_, ?_⟩
  · intro readBack
    cases readBack { sampleCountedResult with status := none } nofun
  · intro distinct
    have canonical : ∀ status, some RoutineStatus.sendError = some status → status.IsCanonical := by
      rintro _ ⟨⟩
      exact nofun
    cases distinct { sampleCountedResult with status := none }
      { sampleCountedResult with status := some .sendError, count := none } nofun canonical rfl

end DiagnosticGateway
