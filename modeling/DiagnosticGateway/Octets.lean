/-
Module: DiagnosticGateway.Octets
Purpose: Bytes as lists, big-endian words, and the reading of a field from the front.
Main exports:
  Octets, Octets.ofWord16, Octets.ofWord32, Octets.takeByte, Octets.takeWord16,
  Octets.takeWord32, Octets.takeBlock
-/

/-!
Every format of this library is a row of fields, most significant byte first.  A writer appends the
fields; a reader takes one field from the front and hands on what follows.  The two sides are tied
field by field: reading what was written gives the value and leaves the rest alone
(`takeWord16_ofWord16_append` and its companions), and what a reader took is what a writer would
have put there (`eq_of_takeWord16_eq_some` and its companions).
-/

namespace DiagnosticGateway

/-- Bytes in the order in which they travel. -/
abbrev Octets := List UInt8

namespace Octets

/-- The two bytes of a word, high byte first. -/
def ofWord16 (word : UInt16) : Octets :=
  [UInt8.ofNat (word.toNat / 256), UInt8.ofNat word.toNat]

/-- The four bytes of a word, high byte first. -/
def ofWord32 (word : UInt32) : Octets :=
  [UInt8.ofNat (word.toNat / 16777216), UInt8.ofNat (word.toNat / 65536),
    UInt8.ofNat (word.toNat / 256), UInt8.ofNat word.toNat]

/-- The word that two bytes spell. -/
def word16 (high low : UInt8) : UInt16 :=
  UInt16.ofNat (high.toNat * 256 + low.toNat)

/-- The word that four bytes spell. -/
def word32 (first second third fourth : UInt8) : UInt32 :=
  UInt32.ofNat
    (first.toNat * 16777216 + second.toNat * 65536 + third.toNat * 256 + fourth.toNat)

/-- The number that bytes spell, most significant first. -/
def value (bytes : Octets) : Nat :=
  bytes.foldl (fun number byte => number * 256 + byte.toNat) 0

/-- Read one byte from the front. -/
def takeByte : Octets → Option (UInt8 × Octets)
  | byte :: rest => some (byte, rest)
  | [] => none

/-- Read a 16-bit word from the front. -/
def takeWord16 : Octets → Option (UInt16 × Octets)
  | high :: low :: rest => some (word16 high low, rest)
  | _ => none

/-- Read a 32-bit word from the front. -/
def takeWord32 : Octets → Option (UInt32 × Octets)
  | first :: second :: third :: fourth :: rest => some (word32 first second third fourth, rest)
  | _ => none

/-- Read `size` bytes from the front, if there are that many. -/
def takeBlock (size : Nat) (bytes : Octets) : Option (Octets × Octets) :=
  if (bytes.take size).length = size then some (bytes.take size, bytes.drop size) else none

/-- A byte string of a fixed length. -/
abbrev Block (size : Nat) := { bytes : Octets // bytes.length = size }

/-- The block of `size` zero bytes. -/
def Block.zero (size : Nat) : Block size := ⟨List.replicate size 0, List.length_replicate⟩

/-- Read a block of `size` bytes from the front, if there are that many. -/
def takeSized (size : Nat) (bytes : Octets) : Option (Block size × Octets) :=
  if width : (bytes.take size).length = size then some (⟨bytes.take size, width⟩, bytes.drop size)
  else none

/-! ## Words -/

@[simp] theorem length_ofWord16 (word : UInt16) : (ofWord16 word).length = 2 := rfl

@[simp] theorem length_ofWord32 (word : UInt32) : (ofWord32 word).length = 4 := rfl

theorem word16_of_parts (word : UInt16) :
    word16 (UInt8.ofNat (word.toNat / 256)) (UInt8.ofNat word.toNat) = word := by
  apply UInt16.toNat_inj.mp
  have bound := word.toNat_lt
  simp [word16]
  omega

theorem word32_of_parts (word : UInt32) :
    word32 (UInt8.ofNat (word.toNat / 16777216)) (UInt8.ofNat (word.toNat / 65536))
      (UInt8.ofNat (word.toNat / 256)) (UInt8.ofNat word.toNat) = word := by
  apply UInt32.toNat_inj.mp
  have bound := word.toNat_lt
  simp [word32]
  omega

theorem ofWord16_word16 (high low : UInt8) : ofWord16 (word16 high low) = [high, low] := by
  have highBound := high.toNat_lt
  have lowBound := low.toNat_lt
  simp only [ofWord16, word16, List.cons.injEq, and_true]
  constructor
  · apply UInt8.toNat_inj.mp
    simp
    omega
  · apply UInt8.toNat_inj.mp
    simp

theorem ofWord32_word32 (first second third fourth : UInt8) :
    ofWord32 (word32 first second third fourth) = [first, second, third, fourth] := by
  have firstBound := first.toNat_lt
  have secondBound := second.toNat_lt
  have thirdBound := third.toNat_lt
  have fourthBound := fourth.toNat_lt
  simp only [ofWord32, word32, List.cons.injEq, and_true]
  refine ⟨?_, ?_, ?_, ?_⟩ <;> apply UInt8.toNat_inj.mp <;> simp <;> omega

/-! ## Reading what was written -/

@[simp] theorem takeByte_cons (byte : UInt8) (rest : Octets) :
    takeByte (byte :: rest) = some (byte, rest) := rfl

@[simp] theorem takeWord16_ofWord16_append (word : UInt16) (rest : Octets) :
    takeWord16 (ofWord16 word ++ rest) = some (word, rest) := by
  show some (word16 _ _, rest) = some (word, rest)
  rw [word16_of_parts]

/-- Different words are written differently. -/
theorem ofWord16_inj {first second : UInt16} :
    ofWord16 first = ofWord16 second ↔ first = second := by
  constructor
  · intro same
    have read := congrArg (fun bytes => takeWord16 (bytes ++ [])) same
    simp only [takeWord16_ofWord16_append] at read
    exact congrArg Prod.fst (Option.some.inj read)
  · rintro rfl
    rfl

@[simp] theorem takeWord32_ofWord32_append (word : UInt32) (rest : Octets) :
    takeWord32 (ofWord32 word ++ rest) = some (word, rest) := by
  show some (word32 _ _ _ _, rest) = some (word, rest)
  rw [word32_of_parts]

theorem takeBlock_append {block : Octets} {size : Nat} (width : block.length = size)
    (rest : Octets) : takeBlock size (block ++ rest) = some (block, rest) := by
  subst width
  simp [takeBlock]

@[simp] theorem takeSized_append {size : Nat} (block : Block size) (rest : Octets) :
    takeSized size (block.val ++ rest) = some (block, rest) := by
  obtain ⟨bytes, width⟩ := block
  subst width
  simp [takeSized]

/-! ## What was read -/

theorem eq_of_takeByte_eq_some {bytes rest : Octets} {byte : UInt8}
    (taken : takeByte bytes = some (byte, rest)) : bytes = byte :: rest := by
  cases bytes with
  | nil => simp [takeByte] at taken
  | cons head tail =>
      simp only [takeByte, Option.some.injEq, Prod.mk.injEq] at taken
      rw [taken.1, taken.2]

theorem eq_of_takeWord16_eq_some {bytes rest : Octets} {word : UInt16}
    (taken : takeWord16 bytes = some (word, rest)) : bytes = ofWord16 word ++ rest := by
  match bytes, taken with
  | high :: low :: tail, taken =>
      simp only [takeWord16, Option.some.injEq, Prod.mk.injEq] at taken
      rw [← taken.1, ← taken.2, ofWord16_word16]
      rfl

theorem eq_of_takeWord32_eq_some {bytes rest : Octets} {word : UInt32}
    (taken : takeWord32 bytes = some (word, rest)) : bytes = ofWord32 word ++ rest := by
  match bytes, taken with
  | first :: second :: third :: fourth :: tail, taken =>
      simp only [takeWord32, Option.some.injEq, Prod.mk.injEq] at taken
      rw [← taken.1, ← taken.2, ofWord32_word32]
      rfl

theorem eq_of_takeBlock_eq_some {size : Nat} {bytes block rest : Octets}
    (taken : takeBlock size bytes = some (block, rest)) :
    bytes = block ++ rest ∧ block.length = size := by
  unfold takeBlock at taken
  split at taken
  · rename_i width
    simp only [Option.some.injEq, Prod.mk.injEq] at taken
    rw [← taken.1, ← taken.2]
    exact ⟨(List.take_append_drop size bytes).symm, width⟩
  · simp at taken

theorem eq_of_takeSized_eq_some {size : Nat} {bytes rest : Octets} {block : Block size}
    (taken : takeSized size bytes = some (block, rest)) : bytes = block.val ++ rest := by
  unfold takeSized at taken
  split at taken
  · simp only [Option.some.injEq, Prod.mk.injEq] at taken
    rw [← taken.1, ← taken.2]
    exact (List.take_append_drop size bytes).symm
  · simp at taken

theorem takeBlock_eq_none_iff {size : Nat} {bytes : Octets} :
    takeBlock size bytes = none ↔ bytes.length < size := by
  unfold takeBlock
  split
  · rename_i width
    rw [List.length_take] at width
    simp only [reduceCtorEq, false_iff, Nat.not_lt]
    omega
  · rename_i width
    rw [List.length_take] at width
    simp only [true_iff]
    omega

end Octets

end DiagnosticGateway
