/-
Module: DiagnosticGateway.Proofs.Package.Slot
Purpose: Which slot a package is given, and which slots an image that begins in it has bytes in.
Main exports:
  StagingSlot.Overlaps, StagingSlot.overlaps_iff, Ecu.exists_overlaps_iff,
  PackageHeader.slotOwner, PackageHeader.resolve_eq_ok_iff
-/
import DiagnosticGateway.Package.Image

/-!
Four control units have slots, and the slots lie one behind the other without gaps.  An image is put
where its slot begins; whatever does not fit lies in the slots behind.
-/

namespace DiagnosticGateway

namespace StagingSlot

/-- An image of the given length that is put where a slot begins has bytes in another slot. -/
structure Overlaps (slot : StagingSlot) (length : Nat) (other : StagingSlot) : Prop where
  begins : other.start.toNat < slot.start.toNat + length
  ends : slot.start.toNat < other.start.toNat + other.size.toNat

/-- The slots of the control units lie one behind the other, from the beginning of the staging flash
on. -/
theorem toNat_start_ofIndex {index : Nat} (below : index < 4) :
    (ofIndex (UInt32.ofNat index)).start.toNat = index * slotSize.toNat := by
  match index, below with
  | 0, _ => rfl
  | 1, _ => rfl
  | 2, _ => rfl
  | 3, _ => rfl

/-- A slot is told by its number. -/
theorem ofIndex_inj {index other : Nat} (below : index < 4) (otherBelow : other < 4) :
    ofIndex (UInt32.ofNat index) = ofIndex (UInt32.ofNat other) ↔ index = other := by
  constructor
  · intro same
    have starts := congrArg (fun slot => slot.start.toNat) same
    simp only [toNat_start_ofIndex below, toNat_start_ofIndex otherBelow] at starts
    exact Nat.eq_of_mul_eq_mul_right (by decide) starts
  · rintro rfl
    rfl

/-- An image has bytes in another slot when that lies behind its own and the image reaches it. -/
theorem overlaps_iff {index other length : Nat} (below : index < 4) (otherBelow : other < 4)
    (different : other ≠ index) :
    (ofIndex (UInt32.ofNat index)).Overlaps length (ofIndex (UInt32.ofNat other)) ↔
      index < other ∧ other * slotSize.toNat < index * slotSize.toNat + length := by
  have positive : 0 < slotSize.toNat := by decide
  have size : (ofIndex (UInt32.ofNat other)).size.toNat = slotSize.toNat := rfl
  constructor
  · rintro ⟨begins, ends⟩
    rw [toNat_start_ofIndex below, toNat_start_ofIndex otherBelow] at begins
    rw [toNat_start_ofIndex below, toNat_start_ofIndex otherBelow, size, ← Nat.succ_mul] at ends
    have behind := Nat.lt_of_mul_lt_mul_right ends
    exact ⟨by omega, begins⟩
  · rintro ⟨behind, reached⟩
    have before := Nat.mul_le_mul_right slotSize.toNat (Nat.le_of_lt behind)
    constructor
    · rwa [toNat_start_ofIndex below, toNat_start_ofIndex otherBelow]
    · rw [toNat_start_ofIndex below, toNat_start_ofIndex otherBelow, size]
      exact Nat.lt_of_le_of_lt before (Nat.lt_add_of_pos_right positive)

end StagingSlot

namespace Ecu

/-- The control units have four slots between them. -/
theorem exists_stagingSlot?_iff {slot : StagingSlot} :
    (∃ ecu, stagingSlot? ecu = some slot) ↔
      ∃ index, index < 4 ∧ slot = .ofIndex (UInt32.ofNat index) := by
  constructor
  · rintro ⟨ecu, found⟩
    unfold stagingSlot? at found
    split at found
    · exact ⟨0, by decide, (Option.some.inj found).symm⟩
    split at found
    · exact ⟨1, by decide, (Option.some.inj found).symm⟩
    split at found
    · exact ⟨2, by decide, (Option.some.inj found).symm⟩
    split at found
    · exact ⟨3, by decide, (Option.some.inj found).symm⟩
    · cases found
  · rintro ⟨index, below, rfl⟩
    match index, below with
    | 0, _ => exact ⟨gateway, rfl⟩
    | 1, _ => exact ⟨zoneOne, rfl⟩
    | 2, _ => exact ⟨zoneTwo, rfl⟩
    | 3, _ => exact ⟨zoneThree, rfl⟩

/-- An image that begins in the slot of a control unit has bytes in the slot of another exactly when
it is longer than its slot and a slot lies behind that. -/
theorem exists_overlaps_iff {ecu : UInt16} {slot : StagingSlot} {length : Nat}
    (found : stagingSlot? ecu = some slot) :
    (∃ owner other, stagingSlot? owner = some other ∧ other ≠ slot ∧
        slot.Overlaps length other) ↔
      slot.size.toNat < length ∧ slot ≠ .ofIndex 3 := by
  obtain ⟨index, below, rfl⟩ := exists_stagingSlot?_iff.mp ⟨ecu, found⟩
  have size : (StagingSlot.ofIndex (UInt32.ofNat index)).size.toNat =
      StagingSlot.slotSize.toNat := rfl
  have last : (3 : UInt32) = UInt32.ofNat 3 := rfl
  rw [size, last, ne_eq, StagingSlot.ofIndex_inj below (by decide)]
  constructor
  · rintro ⟨owner, other, owned, different, overlaps⟩
    obtain ⟨otherIndex, otherBelow, rfl⟩ := exists_stagingSlot?_iff.mp ⟨owner, owned⟩
    rw [ne_eq, StagingSlot.ofIndex_inj otherBelow below] at different
    obtain ⟨behind, reached⟩ :=
      (StagingSlot.overlaps_iff below otherBelow different).mp overlaps
    have whole := Nat.mul_le_mul_right StagingSlot.slotSize.toNat (Nat.succ_le_of_lt behind)
    rw [Nat.succ_mul] at whole
    exact ⟨Nat.lt_of_add_lt_add_left (Nat.lt_of_le_of_lt whole reached), by omega⟩
  · rintro ⟨longer, before⟩
    have nextBelow : index + 1 < 4 := by omega
    obtain ⟨owner, owned⟩ := exists_stagingSlot?_iff.mpr ⟨index + 1, nextBelow, rfl⟩
    refine ⟨owner, _, owned, ?_, ?_⟩
    · rw [ne_eq, StagingSlot.ofIndex_inj nextBelow below]
      omega
    · apply (StagingSlot.overlaps_iff below nextBelow (by omega)).mpr
      rw [Nat.succ_mul]
      exact ⟨Nat.lt_succ_self index, Nat.add_lt_add_left longer _⟩

end Ecu

/-- The control unit in whose slot a package is staged. -/
def PackageHeader.slotOwner (header : PackageHeader) (own : UInt16) : UInt16 :=
  if header.isFor own then own else header.target

/-- What becomes of a package, and its slot, follow from its target. -/
theorem PackageHeader.resolve_eq_ok_iff {header : PackageHeader} {own : UInt16}
    {disposition : Disposition} {slot : StagingSlot} :
    header.resolve own = .ok (disposition, slot) ↔
      disposition = (if header.isFor own then .applyHere else .forward header.target) ∧
        Ecu.stagingSlot? (header.slotOwner own) = some slot := by
  have target : (if header.isFor own then (Disposition.applyHere, own)
      else (Disposition.forward header.target, header.target)) =
        (if header.isFor own then .applyHere else .forward header.target,
          header.slotOwner own) := by
    unfold slotOwner
    split <;> rfl
  unfold resolve
  rw [target]
  dsimp only
  cases Ecu.stagingSlot? (header.slotOwner own) with
  | none => simp
  | some found =>
      simp only [Except.ok.injEq, Prod.mk.injEq, Option.some.injEq]
      constructor
      · rintro ⟨rfl, rfl⟩
        exact ⟨rfl, rfl⟩
      · rintro ⟨rfl, rfl⟩
        exact ⟨rfl, rfl⟩

end DiagnosticGateway
