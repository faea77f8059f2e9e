/-
Module: DiagnosticGateway.Proofs.Telemetry.Text
Purpose: Which texts a field holds as they are.
Main exports:
  FixedText.carried, FixedText.Legible, FixedText.carried_eq_iff, FixedText.legible_read,
  FixedText.reads_write
-/
import DiagnosticGateway.Proofs.Octets.FixedWidth
import DiagnosticGateway.Telemetry.Text
import Mathlib.Data.List.DropRight

/-!
A field may hold less than the text that was written into it: what is too long is cut, what is not
ASCII is dropped by the reader, and so are NULs at the end.  What the reader finds is a text that the
field holds as it is, so that writing and reading it again changes nothing more.
-/

namespace DiagnosticGateway.FixedText

/-- The text that is found in a field into which a text was written. -/
def carried (width : Nat) (text : String) : String := read (write width text)

/-- A text that a field of `width` bytes holds as it is. -/
structure Legible (width : Nat) (text : String) : Prop where
  ascii : ∀ character ∈ text.toList, character.toNat < 128
  fits : text.length ≤ width
  untrimmed : text.toList.getLast? ≠ some '\x00'

instance (width : Nat) (text : String) : Decidable (Legible width text) :=
  decidable_of_iff
    ((text.toList.all fun character => character.toNat < 128) ∧ text.length ≤ width ∧
      text.toList.getLast? ≠ some '\x00')
    ⟨fun ⟨ascii, fits, untrimmed⟩ =>
        ⟨fun character member => of_decide_eq_true (List.all_eq_true.mp ascii character member),
          fits, untrimmed⟩,
      fun legible =>
        ⟨List.all_eq_true.mpr fun character member =>
            decide_eq_true (legible.ascii character member),
          legible.fits, legible.untrimmed⟩⟩

variable {width : Nat} {text : String}

/-! ## Characters and bytes -/

theorem utf8EncodeChar_of_ascii {character : Char} (ascii : character.toNat < 128) :
    String.utf8EncodeChar character = [UInt8.ofNat character.toNat] := by
  have single : character.utf8Size = 1 :=
    Char.utf8Size_eq_one_iff.mpr (UInt32.le_iff_toNat_le.mpr (Nat.le_of_lt_succ ascii))
  rw [String.utf8EncodeChar_eq_singleton single]
  rfl

/-- The characters of an ASCII text are its bytes. -/
theorem utf8_of_ascii (ascii : ∀ character ∈ text.toList, character.toNat < 128) :
    utf8 text = text.toList.map fun character => UInt8.ofNat character.toNat := by
  rw [utf8, List.map_eq_flatMap]
  exact List.flatMap_congr fun character member => utf8EncodeChar_of_ascii (ascii character member)

theorem toNat_byte_of_ascii {character : Char} (ascii : character.toNat < 128) :
    (UInt8.ofNat character.toNat).toNat = character.toNat :=
  UInt8.toNat_ofNat_of_lt' (Nat.lt_trans ascii (by decide))

theorem toNat_char_of_ascii {byte : UInt8} (ascii : byte.toNat < 128) :
    (Char.ofNat byte.toNat).toNat = byte.toNat := by
  have valid : byte.toNat.isValidChar := .inl (Nat.lt_trans ascii (by decide))
  rw [Char.ofNat, dif_pos valid]
  rfl

/-! ## NULs at the end -/

theorem trimNul_eq (characters : List Char) :
    trimNul characters = characters.rdropWhile (· == '\x00') := rfl

theorem getLast?_trimNul (characters : List Char) :
    (trimNul characters).getLast? ≠ some '\x00' := by
  rw [trimNul_eq]
  by_cases nothing : characters.rdropWhile (· == '\x00') = []
  · simp [nothing]
  · rw [List.getLast?_eq_some_getLast nothing]
    have kept := List.rdropWhile_last_not (· == '\x00') characters nothing
    simpa using kept

/-- Of a text without NULs at its end nothing is cut off but the padding. -/
theorem trimNul_append_replicate {characters : List Char} (padding : Nat)
    (untrimmed : characters.getLast? ≠ some '\x00') :
    trimNul (characters ++ List.replicate padding '\x00') = characters := by
  rw [trimNul_eq]
  induction padding with
  | zero =>
      rw [List.replicate_zero, List.append_nil, List.rdropWhile_eq_self_iff]
      intro nonempty
      rw [List.getLast?_eq_some_getLast nonempty] at untrimmed
      simpa using untrimmed
  | succ padding inductionHypothesis =>
      rw [List.replicate_succ', ← List.append_assoc, List.rdropWhile_concat_pos _ _ _ rfl]
      exact inductionHypothesis

/-! ## Fields -/

/-- What a field holds is found as it was written, if it is legible. -/
theorem carried_of_legible (legible : Legible width text) : carried width text = text := by
  have bytes := utf8_of_ascii legible.ascii
  have length : (utf8 text).length = text.length := by
    rw [bytes, List.length_map, String.length_toList]
  have whole : (utf8 text).take width = utf8 text :=
    List.take_of_length_le (length.trans_le legible.fits)
  have allAscii : (utf8 text).filter isAscii = utf8 text := by
    rw [List.filter_eq_self, bytes]
    intro byte member
    obtain ⟨character, inText, rfl⟩ := List.mem_map.mp member
    rw [isAscii, toNat_byte_of_ascii (legible.ascii character inText)]
    exact decide_eq_true (legible.ascii character inText)
  have characters : (utf8 text).map (fun byte => Char.ofNat byte.toNat) = text.toList := by
    rw [bytes, List.map_map]
    conv_rhs => rw [← List.map_id text.toList]
    refine List.map_congr_left fun character member => ?_
    rw [Function.comp_apply, toNat_byte_of_ascii (legible.ascii character member),
      Char.ofNat_toNat, id]
  have padding : ∀ count, (List.replicate count (0 : UInt8)).filter isAscii =
      List.replicate count 0 :=
    fun count => List.filter_replicate_of_pos rfl
  rw [carried, write, read, whole, List.filter_append, allAscii, padding, List.map_append,
    characters, List.map_replicate]
  exact (congrArg String.ofList (trimNul_append_replicate _ legible.untrimmed)).trans
    String.ofList_toList

/-- Whatever bytes a field has, what is found in it is legible. -/
theorem legible_read {field : Octets} (length : field.length ≤ width) :
    Legible width (read field) := by
  have shortened : trimNul ((field.filter isAscii).map fun byte => Char.ofNat byte.toNat) <+:
      (field.filter isAscii).map fun byte => Char.ofNat byte.toNat :=
    List.rdropWhile_prefix _ _
  refine ⟨?_, ?_, ?_⟩
  · intro character member
    rw [read, String.toList_ofList] at member
    obtain ⟨byte, inField, rfl⟩ := List.mem_map.mp (shortened.subset member)
    have ascii : byte.toNat < 128 := of_decide_eq_true (List.mem_filter.mp inField).2
    rwa [toNat_char_of_ascii ascii]
  · calc (read field).length
        = (trimNul ((field.filter isAscii).map fun byte => Char.ofNat byte.toNat)).length := by
          rw [read, String.length_ofList]
      _ ≤ ((field.filter isAscii).map fun byte => Char.ofNat byte.toNat).length :=
          shortened.length_le
      _ ≤ field.length := by
          rw [List.length_map]
          exact List.length_filter_le _ _
      _ ≤ width := length
  · rw [read, String.toList_ofList]
    exact getLast?_trimNul _

theorem legible_carried (width : Nat) (text : String) : Legible width (carried width text) :=
  legible_read (length_write width text).le

/-- Exactly the legible texts are found as they were written. -/
theorem carried_eq_iff : carried width text = text ↔ Legible width text := by
  constructor
  · intro same
    rw [← same]
    exact legible_carried width text
  · exact carried_of_legible

/-! ## Readers -/

theorem reads_write (width : Nat) (text : String) :
    Octets.Reads (take width) (write width text) (carried width text) :=
  take_write_append width text

/-- What a reader took from a field is legible. -/
theorem legible_of_take {bytes rest : Octets} (taken : take width bytes = some (text, rest)) :
    Legible width text := by
  obtain ⟨⟨field, others⟩, block, same⟩ := Option.map_eq_some_iff.mp taken
  cases same
  exact legible_read (Octets.eq_of_takeBlock_eq_some block).2.le

end DiagnosticGateway.FixedText
