/-
Module: DiagnosticGateway.Telemetry.Text
Purpose: Text in fields of a fixed number of bytes.
Main exports:
  FixedText.utf8, FixedText.write, FixedText.read, FixedText.take
-/
import DiagnosticGateway.Octets

/-!
A text field holds the first bytes of the text's UTF-8 form and is filled up with zero bytes; a cut
may fall inside a character.  Reading a field drops every byte that is not ASCII and then the zero
bytes at the end, so text that is ASCII, fits and does not end in a zero byte comes back unchanged.
-/

namespace DiagnosticGateway.FixedText

/-- The UTF-8 form of a text. -/
def utf8 (text : String) : Octets := text.toList.flatMap String.utf8EncodeChar

/-- The field of `width` bytes that holds a text. -/
def write (width : Nat) (text : String) : Octets :=
  (utf8 text).take width ++ List.replicate (width - (utf8 text).length) 0

/-- Whether a byte is an ASCII character. -/
def isAscii (byte : UInt8) : Bool := byte.toNat < 128

/-- Characters without the NULs at their end. -/
def trimNul (characters : List Char) : List Char :=
  (characters.reverse.dropWhile (· == '\x00')).reverse

/-- The text that a field holds. -/
def read (field : Octets) : String :=
  String.ofList (trimNul ((field.filter isAscii).map fun byte => Char.ofNat byte.toNat))

/-- Read a field of `width` bytes from the front. -/
def take (width : Nat) (bytes : Octets) : Option (String × Octets) :=
  (Octets.takeBlock width bytes).map fun (field, rest) => (read field, rest)

/-- A field has its width, whatever the text. -/
@[simp] theorem length_write (width : Nat) (text : String) : (write width text).length = width := by
  simp only [write, List.length_append, List.length_take, List.length_replicate]
  omega

@[simp] theorem take_write_append (width : Nat) (text : String) (rest : Octets) :
    take width (write width text ++ rest) = some (read (write width text), rest) := by
  simp [take, Octets.takeBlock_append (length_write width text) rest]

end DiagnosticGateway.FixedText
