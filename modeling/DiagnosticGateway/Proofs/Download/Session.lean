/-
Module: DiagnosticGateway.Proofs.Download.Session
Purpose: What every operation of a download does, and what holds of a download between
  operations.
Main exports:
  Download.blockCounter, Download.extend, Download.request_eq_ok_iff,
  Download.receive_eq_ok_iff, Download.exit_eq_ok_iff, Download.eq_of_request_eq_error,
  Download.eq_of_receive_eq_error, Download.eq_of_exit_eq_error, Download.InProgress,
  Download.InProgress.state_eq, Download.Sound
-/
import DiagnosticGateway.Download

/-!
For each operation one lemma says when it is granted and which download it then leaves, and another
that it leaves the download as it was when it is refused.  So what a download goes through is decided
by the operations that are granted; `Sound` is what all of them keep.
-/

namespace DiagnosticGateway.Download

/-- The counter of a block that `count` blocks came before. -/
def blockCounter (count : Nat) : UInt8 := UInt8.ofNat (count % 255 + 1)

theorem toNat_blockCounter (count : Nat) : (blockCounter count).toNat = count % 255 + 1 := by
  have bound : count % 255 + 1 < 256 := by omega
  simp only [blockCounter, UInt8.toNat_ofNat']
  exact Nat.mod_eq_of_lt bound

@[simp] theorem counterAfter_blockCounter (count : Nat) :
    counterAfter (blockCounter count) = blockCounter (count + 1) := by
  have value := toNat_blockCounter count
  unfold counterAfter
  split
  · rename_i last
    rw [last] at value
    have wrapped : (count + 1) % 255 = 0 := by
      have : count % 255 + 1 = 255 := value.symm
      omega
    simp [blockCounter, wrapped]
  · rename_i below
    have inside : count % 255 + 1 ≠ 255 := by
      intro reached
      exact below (UInt8.toNat_inj.mp (value.trans reached))
    apply UInt8.toNat_inj.mp
    have next : (count + 1) % 255 = count % 255 + 1 := by omega
    rw [UInt8.toNat_add, value, blockCounter, next, UInt8.toNat_ofNat', UInt8.toNat_one]

/-- The download that a granted block leaves. -/
def extend (download : Download) (block : Octets) : Download :=
  let transferred := download.transferred + UInt32.ofNat block.length
  { download with
    received := download.received ++ block
    transferred := transferred
    nextCounter := counterAfter download.nextCounter
    state := if transferred = download.total then .awaitingExit else download.state }

section

variable {download next : Download}

@[simp] theorem isActive_abort : download.abort.isActive = false := rfl

/-- A download is opened exactly when none is active and its bytes lie in the flash window. -/
theorem request_eq_ok_iff {dataFormat : UInt8} {address size : UInt32} {maxBlockLength : UInt16} :
    download.request dataFormat address size = (.ok maxBlockLength, next) ↔
      download.isActive = false ∧ download.limits.Contains address size ∧
        maxBlockLength = download.limits.maxBlockLength ∧
        next =
          { limits := download.limits
            state := .downloading
            address := address
            total := size
            dataFormat := dataFormat } := by
  unfold request
  cases download.isActive with
  | true => simp
  | false =>
      by_cases window : download.limits.Contains address size
      · simp [window, eq_comm]
      · simp [window]

theorem eq_of_request_eq_error {dataFormat : UInt8} {address size : UInt32} {fault : DownloadFault}
    (refused : download.request dataFormat address size = (.error fault, next)) :
    next = download := by
  unfold request at refused
  split at refused
  · exact (congrArg Prod.snd refused).symm
  · split at refused
    · cases congrArg Prod.fst refused
    · exact (congrArg Prod.snd refused).symm

/-- A block is granted exactly when a download is active and the block has a usual length, the
expected counter and room. -/
theorem receive_eq_ok_iff {counter : UInt8} {block : Octets} {receipt : BlockReceipt} :
    download.receive counter block = (.ok receipt, next) ↔
      download.isActive = true ∧ 0 < block.length ∧
        block.length ≤ download.limits.maxBlockLength.toNat ∧
        counter = download.nextCounter ∧
        download.transferred.toNat + block.length ≤ download.total.toNat ∧
        receipt =
          { counter := counter
            transferred := (download.extend block).transferred
            last := (download.extend block).transferred == download.total } ∧
        next = download.extend block := by
  unfold receive
  cases download.isActive with
  | false => simp
  | true =>
      by_cases unusual :
          block.length = 0 ∨ download.limits.maxBlockLength.toNat < block.length
      · simp only [unusual, if_true, Prod.mk.injEq, reduceCtorEq, false_and, false_iff]
        omega
      · by_cases expected : counter = download.nextCounter
        · by_cases room :
              download.total.toNat < download.transferred.toNat + block.length
          · simp only [unusual, expected, room, if_true, if_false, ne_eq, not_true_eq_false,
              Prod.mk.injEq, reduceCtorEq, false_and, false_iff]
            omega
          · subst expected
            simp only [unusual, room, if_true, if_false, ne_eq, not_true_eq_false,
              Prod.mk.injEq, Except.ok.injEq, beq_iff_eq, true_and]
            constructor
            · rintro ⟨receiptEq, nextEq⟩
              exact ⟨by omega, by omega, by omega, receiptEq.symm, nextEq.symm⟩
            · rintro ⟨-, -, -, receiptEq, nextEq⟩
              exact ⟨receiptEq.symm, nextEq.symm⟩
        · simp only [unusual, expected, if_true, if_false, ne_eq, not_false_eq_true,
            Prod.mk.injEq, reduceCtorEq, false_and, and_false]

theorem eq_of_receive_eq_error {counter : UInt8} {block : Octets} {fault : DownloadFault}
    (refused : download.receive counter block = (.error fault, next)) : next = download := by
  unfold receive at refused
  split at refused
  · split at refused
    · exact (congrArg Prod.snd refused).symm
    split at refused
    · exact (congrArg Prod.snd refused).symm
    split at refused
    · exact (congrArg Prod.snd refused).symm
    · cases congrArg Prod.fst refused
  · exact (congrArg Prod.snd refused).symm

/-- A download is closed exactly when it waits for its exit. -/
theorem exit_eq_ok_iff {image : DownloadedImage} :
    download.exit = (.ok image, next) ↔
      download.state = .awaitingExit ∧
        image = { address := download.address, data := download.received } ∧
        next = { download with state := .complete, received := [] } := by
  unfold exit
  cases download.state <;> simp [eq_comm]

theorem eq_of_exit_eq_error {fault : DownloadFault}
    (refused : download.exit = (.error fault, next)) : next = download := by
  unfold exit at refused
  split at refused
  · cases congrArg Prod.fst refused
  all_goals exact (congrArg Prod.snd refused).symm

/-- An active download is downloading or waits for its exit. -/
theorem isActive_iff :
    download.isActive = true ↔
      download.state = .downloading ∨ download.state = .awaitingExit := by
  simp [isActive]

theorem isActive_of_awaitingExit (awaiting : download.state = .awaitingExit) :
    download.isActive = true :=
  isActive_iff.mpr (Or.inr awaiting)

/-- A granted block keeps a download active. -/
theorem isActive_extend (active : download.isActive = true) (block : Octets) :
    (download.extend block).isActive = true := by
  apply isActive_iff.mpr
  unfold extend
  dsimp only
  split
  · exact Or.inr rfl
  · exact isActive_iff.mp active

end

/-- What holds of a download while it is active: its target lies in the flash window, its count is
that of the bytes received, and it waits for its exit exactly when every announced byte has come. -/
structure InProgress (download : Download) : Prop where
  window : download.limits.Contains download.address download.total
  counted : download.transferred.toNat = download.received.length
  bounded : download.received.length ≤ download.total.toNat
  awaiting : download.state = .awaitingExit ↔ download.received.length = download.total.toNat

/-- The state of an active download is told by its counts. -/
theorem InProgress.state_eq {download : Download} (progress : download.InProgress)
    (active : download.isActive = true) :
    download.state =
      if download.transferred = download.total then .awaitingExit else .downloading := by
  have complete : download.state = .awaitingExit ↔ download.transferred = download.total := by
    rw [progress.awaiting, ← progress.counted, UInt32.toNat_inj]
  split
  · rename_i equal
    exact complete.mpr equal
  · rename_i different
    exact (isActive_iff.mp active).resolve_right (mt complete.mp different)

/-- What holds of every download: an inactive one holds no bytes. -/
structure Sound (download : Download) : Prop where
  active : download.isActive = true → download.InProgress
  inactive : download.isActive = false → download.received = []

namespace Sound

theorem fresh (limits : DownloadLimits) : Sound { limits := limits } where
  active active := by simp [isActive] at active
  inactive _ := rfl

theorem request {download next : Download} {dataFormat : UInt8} {address size : UInt32}
    {maxBlockLength : UInt16}
    (granted : download.request dataFormat address size = (.ok maxBlockLength, next)) :
    next.Sound := by
  obtain ⟨-, window, -, rfl⟩ := request_eq_ok_iff.mp granted
  refine ⟨fun _ => ⟨window, rfl, Nat.zero_le _, ?_⟩, fun inactive => rfl⟩
  have positive := window.1
  simp only [reduceCtorEq, List.length_nil, false_iff]
  omega

theorem receive {download next : Download} {counter : UInt8} {block : Octets}
    {receipt : BlockReceipt} (sound : download.Sound)
    (granted : download.receive counter block = (.ok receipt, next)) : next.Sound := by
  obtain ⟨active, filled, -, -, room, -, rfl⟩ := receive_eq_ok_iff.mp granted
  obtain ⟨window, counted, bounded, awaiting⟩ := sound.active active
  have total := download.total.toNat_lt
  have sum : (download.transferred + UInt32.ofNat block.length).toNat =
      (download.received ++ block).length := by
    rw [UInt32.toNat_add, UInt32.toNat_ofNat', Nat.add_mod_mod, List.length_append, ← counted]
    exact Nat.mod_eq_of_lt (by omega)
  -- The block is not empty and there was room for it, so the exit was not due before it.
  have downloading : download.state = .downloading := by
    rcases isActive_iff.mp active with downloading | waiting
    · exact downloading
    · have complete := awaiting.mp waiting
      omega
  refine ⟨fun _ => ⟨window, sum, ?_, ?_⟩, fun inactive => ?_⟩
  · show (download.received ++ block).length ≤ download.total.toNat
    rw [List.length_append]
    omega
  · show (download.extend block).state = _ ↔ (download.received ++ block).length = _
    rw [← sum, UInt32.toNat_inj]
    unfold extend
    dsimp only
    split
    · simp [*]
    · simp [*]
  · rw [isActive_extend active] at inactive
    cases inactive

theorem exit {download next : Download} {image : DownloadedImage}
    (granted : download.exit = (.ok image, next)) : next.Sound := by
  obtain ⟨-, -, rfl⟩ := exit_eq_ok_iff.mp granted
  exact ⟨fun active => by simp [isActive] at active, fun _ => rfl⟩

theorem abort (download : Download) : download.abort.Sound :=
  ⟨fun active => by simp at active, fun _ => rfl⟩

end Sound

end DiagnosticGateway.Download
