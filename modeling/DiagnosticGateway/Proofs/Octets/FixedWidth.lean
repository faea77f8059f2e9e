/-
Module: DiagnosticGateway.Proofs.Octets.FixedWidth
Purpose: Readers that look at a fixed number of bytes, and what they read back.
Main exports:
  Octets.FixedWidth, Octets.FixedWidth.bind, Octets.FixedWidth.eq_some_of_le, Octets.Reads,
  Octets.Reads.bind, Octets.FixedWidth.reads_of_taken, Octets.Canonical, Octets.Canonical.bind
-/
import DiagnosticGateway.Octets

/-!
A reader that takes a row of fields succeeds on enough bytes whatever they are, and does not look at
the bytes after its fields.  What was written as a row of fields is read back as one, and what is read
as one is written again with the same bytes.  All of this is put together from the same facts about
the fields.
-/

namespace DiagnosticGateway.Octets

/-- A reader takes a value from exactly `width` bytes at the front, and takes nothing from fewer. -/
structure FixedWidth {Value : Type} (width : Nat) (reader : Octets → Option (Value × Octets)) :
    Prop where
  short : ∀ bytes, bytes.length < width → reader bytes = none
  enough : ∀ front, front.length = width →
    ∃ value, ∀ rest, reader (front ++ rest) = some (value, rest)

theorem fixedWidth_takeByte : FixedWidth 1 takeByte where
  short bytes few := by
    cases bytes with
    | nil => rfl
    | cons byte rest => simp at few
  enough
    | [byte], _ => ⟨byte, fun _ => rfl⟩

theorem fixedWidth_takeWord16 : FixedWidth 2 takeWord16 where
  short
    | [], _ => rfl
    | [_], _ => rfl
    | _ :: _ :: rest, few => absurd few (Nat.not_lt.mpr (Nat.le_add_left 2 rest.length))
  enough
    | [high, low], _ => ⟨word16 high low, fun _ => rfl⟩

theorem fixedWidth_takeWord32 : FixedWidth 4 takeWord32 where
  short
    | [], _ => rfl
    | [_], _ => rfl
    | [_, _], _ => rfl
    | [_, _, _], _ => rfl
    | _ :: _ :: _ :: _ :: rest, few =>
      absurd few (Nat.not_lt.mpr (Nat.le_add_left 4 rest.length))
  enough
    | [first, second, third, fourth], _ => ⟨word32 first second third fourth, fun _ => rfl⟩

theorem fixedWidth_takeBlock (size : Nat) : FixedWidth size (takeBlock size) where
  short _ few := takeBlock_eq_none_iff.mpr few
  enough front width := ⟨front, takeBlock_append width⟩

theorem fixedWidth_takeSized (size : Nat) : FixedWidth size (takeSized size) where
  short bytes few := by
    unfold takeSized
    split
    · rename_i width
      rw [List.length_take] at width
      omega
    · rfl
  enough front width := ⟨⟨front, width⟩, fun rest => takeSized_append ⟨front, width⟩ rest⟩

namespace FixedWidth

variable {Value Next : Type} {width nextWidth : Nat}
  {reader : Octets → Option (Value × Octets)} {next : Value × Octets → Option (Next × Octets)}

/-- A reader that takes nothing and gives a value. -/
theorem pure (value : Value) : FixedWidth 0 fun bytes => some (value, bytes) where
  short _ few := absurd few (Nat.not_lt_zero _)
  enough
    | [], _ => ⟨value, fun _ => rfl⟩

/-- A reader whose value is made into another. -/
theorem map {Result : Type} (fixed : FixedWidth width reader) (result : Value → Result) :
    FixedWidth width fun bytes =>
      (reader bytes).map fun (value, rest) => (result value, rest) where
  short bytes few := by
    show (reader bytes).map _ = none
    rw [fixed.short bytes few]
    rfl
  enough front length := by
    obtain ⟨value, reads⟩ := fixed.enough front length
    refine ⟨result value, fun rest => ?_⟩
    show (reader (front ++ rest)).map _ = _
    rw [reads rest]
    rfl

/-- One reader after another. -/
theorem bind (first : FixedWidth width reader)
    (second : ∀ value, FixedWidth nextWidth fun rest => next (value, rest)) :
    FixedWidth (nextWidth + width) fun bytes => reader bytes >>= next where
  short bytes few := by
    by_cases begun : bytes.length < width
    · simp [first.short bytes begun]
    · obtain ⟨value, reads⟩ := first.enough (bytes.take width) (by simp; omega)
      have read := reads (bytes.drop width)
      rw [List.take_append_drop] at read
      have nothing := (second value).short (bytes.drop width) (by simp; omega)
      simp [read, nothing]
  enough front length := by
    obtain ⟨value, reads⟩ := first.enough (front.take width) (by simp; omega)
    obtain ⟨result, finishes⟩ := (second value).enough (front.drop width) (by simp; omega)
    refine ⟨result, fun rest => ?_⟩
    have read := reads (front.drop width ++ rest)
    rw [← List.append_assoc, List.take_append_drop] at read
    simp [read, finishes]

/-- What is read from enough bytes is what is read from the front of them. -/
theorem eq_some_of_le (fixed : FixedWidth width reader) {bytes : Octets}
    (enough : width ≤ bytes.length) :
    ∃ value, reader (bytes.take width) = some (value, []) ∧
      reader bytes = some (value, bytes.drop width) := by
  obtain ⟨value, reads⟩ := fixed.enough (bytes.take width) (by simp; omega)
  have whole := reads (bytes.drop width)
  rw [List.take_append_drop] at whole
  have front := reads []
  rw [List.append_nil] at front
  exact ⟨value, front, whole⟩

end FixedWidth

/-! ## Reading back -/

/-- A reader takes a value from its bytes and leaves what follows them. -/
def Reads {Value : Type} (reader : Octets → Option (Value × Octets)) (bytes : Octets)
    (value : Value) : Prop :=
  ∀ rest, reader (bytes ++ rest) = some (value, rest)

theorem reads_takeWord16 (word : UInt16) : Reads takeWord16 (ofWord16 word) word :=
  takeWord16_ofWord16_append word

theorem reads_takeWord32 (word : UInt32) : Reads takeWord32 (ofWord32 word) word :=
  takeWord32_ofWord32_append word

namespace Reads

variable {Value Next : Type} {front back : Octets} {value : Value} {result : Next}
  {reader : Octets → Option (Value × Octets)} {next : Value × Octets → Option (Next × Octets)}

/-- One reader after another, on the bytes of one after those of the other. -/
theorem bind (first : Reads reader front value)
    (second : Reads (fun rest => next (value, rest)) back result) :
    Reads (fun bytes => reader bytes >>= next) (front ++ back) result := by
  intro rest
  have read : reader (front ++ back ++ rest) = some (value, back ++ rest) := by
    rw [List.append_assoc]
    exact first (back ++ rest)
  show reader (front ++ back ++ rest) >>= next = some (result, rest)
  rw [read]
  exact second rest

/-- A byte, and another reader on the bytes behind it. -/
theorem cons {byte : UInt8} {next : UInt8 × Octets → Option (Next × Octets)}
    (second : Reads (fun rest => next (byte, rest)) back result) :
    Reads (fun bytes => takeByte bytes >>= next) (byte :: back) result := fun rest => second rest

end Reads

namespace FixedWidth

variable {Value : Type} {width : Nat} {reader : Octets → Option (Value × Octets)}
  {bytes rest : Octets} {value : Value}

/-- Enough bytes begin with the bytes of a value. -/
theorem exists_reads (fixed : FixedWidth width reader) (enough : width ≤ bytes.length) :
    ∃ value, Reads reader (bytes.take width) value :=
  fixed.enough (bytes.take width) (List.length_take_of_le enough)

/-- What is taken stands in the first bytes, and what is handed on are all the others. -/
theorem reads_of_taken (fixed : FixedWidth width reader)
    (taken : reader bytes = some (value, rest)) :
    width ≤ bytes.length ∧ Reads reader (bytes.take width) value ∧ rest = bytes.drop width := by
  have enough : width ≤ bytes.length := by
    apply Nat.le_of_not_lt
    intro few
    rw [fixed.short bytes few] at taken
    cases taken
  obtain ⟨found, reads⟩ := fixed.exists_reads enough
  have whole := reads (bytes.drop width)
  rw [List.take_append_drop, taken] at whole
  cases whole
  exact ⟨enough, reads, rfl⟩

end FixedWidth

/-! ## Writing again -/

/-- What a reader takes has no other bytes than a writer gives it, together with the bytes `before`
it that were taken already. -/
def Canonical {Value : Type} (before : Octets) (reader : Octets → Option (Value × Octets))
    (write : Value → Octets) : Prop :=
  ∀ bytes value rest, reader bytes = some (value, rest) → before ++ bytes = write value ++ rest

theorem canonical_takeByte : Canonical [] takeByte fun byte => [byte] :=
  fun _ _ _ taken => eq_of_takeByte_eq_some taken

theorem canonical_takeWord16 : Canonical [] takeWord16 ofWord16 :=
  fun _ _ _ taken => eq_of_takeWord16_eq_some taken

theorem canonical_takeWord32 : Canonical [] takeWord32 ofWord32 :=
  fun _ _ _ taken => eq_of_takeWord32_eq_some taken

theorem canonical_takeSized (size : Nat) : Canonical [] (takeSized size) Subtype.val :=
  fun _ _ _ taken => eq_of_takeSized_eq_some taken

namespace Canonical

variable {Value Next : Type} {before : Octets} {reader : Octets → Option (Value × Octets)}
  {next : Value × Octets → Option (Next × Octets)} {write : Value → Octets}
  {writeNext : Next → Octets}

/-- A reader that takes nothing more gives a value whose bytes were all taken before. -/
theorem pure {value : Value} (written : before = write value) :
    Canonical before (fun bytes => some (value, bytes)) write := by
  rintro bytes found rest ⟨⟩
  rw [written]

/-- One reader after another: what the first takes was taken before the second begins. -/
theorem bind (first : Canonical [] reader write)
    (second : ∀ value, Canonical (before ++ write value) (fun rest => next (value, rest)) writeNext) :
    Canonical before (fun bytes => reader bytes >>= next) writeNext := by
  intro bytes result rest taken
  obtain ⟨⟨value, middle⟩, read, finished⟩ := Option.bind_eq_some_iff.mp taken
  have bytesEq : bytes = write value ++ middle := first bytes value middle read
  rw [bytesEq, ← List.append_assoc]
  exact second value middle result rest finished

end Canonical

end DiagnosticGateway.Octets
