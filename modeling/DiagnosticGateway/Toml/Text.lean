/-
Module: DiagnosticGateway.Toml.Text
Purpose: Reading from the front of a text: blanks, comments, line ends, keys and quoted strings.
Main exports:
  Toml.Text, Toml.mark?, Toml.dropBlank, Toml.newline?, Toml.lineEnd?, Toml.dropLines?,
  Toml.shortString?, Toml.string?, Toml.keyPath?
-/

/-!
A reader takes something from the front of a text and hands on the rest, or fails.  There is one way
to fail and no second try: the first character decides what is read.
-/

namespace DiagnosticGateway.Toml

/-- What is left of a document. -/
abbrev Text := List Char

/-! ## Characters -/

def isBlank (char : Char) : Bool := char == ' ' || char == '\t'

/-- Characters that may stand in a comment or in quotes: all but the controls, of which only the tab
may. -/
def isPrintable (char : Char) : Bool :=
  char == '\t' || (32 ≤ char.toNat && char.toNat != 127)

/-- Characters of a key without quotes. -/
def isBareKey (char : Char) : Bool := char.isAlphanum || char == '-' || char == '_'

/-- The value of a hexadecimal digit. -/
def hexDigit? (char : Char) : Option Nat :=
  if char.isDigit then some (char.toNat - 48)
  else if 'a' ≤ char ∧ char ≤ 'f' then some (char.toNat - 87)
  else if 'A' ≤ char ∧ char ≤ 'F' then some (char.toNat - 55)
  else none

/-! ## Blanks, comments and line ends -/

/-- Read one given character. -/
def mark? (char : Char) : Text → Option Text
  | head :: rest => if head = char then some rest else none
  | [] => none

/-- Drop spaces and tabs. -/
def dropBlank (text : Text) : Text := text.dropWhile isBlank

/-- Read a line end: a line feed, or a carriage return and a line feed. -/
def newline? : Text → Option Text
  | '\n' :: rest => some rest
  | '\r' :: '\n' :: rest => some rest
  | _ => none

/-- Drop blanks and a comment, if there is one. -/
def dropComment (text : Text) : Text :=
  match dropBlank text with
  | '#' :: rest => rest.dropWhile isPrintable
  | rest => rest

/-- Read the end of a line with the blanks and the comment before it.  The end of the text ends a
line too. -/
def lineEnd? (text : Text) : Option Text :=
  match dropComment text with
  | [] => some []
  | rest => newline? rest

/-- Drop blanks, comments and line ends, as between the elements of an array.  A comment must be
followed by a line end. -/
def dropLinesFor : Nat → Text → Option Text
  | 0, _ => none
  | fuel + 1, text =>
      match dropBlank text with
      | '#' :: rest => do
          let rest ← newline? (rest.dropWhile isPrintable)
          dropLinesFor fuel rest
      | '\n' :: rest => dropLinesFor fuel rest
      | '\r' :: rest => do
          let rest ← newline? ('\r' :: rest)
          dropLinesFor fuel rest
      | rest => some rest

/-- Drop blanks, comments and line ends; each round drops a character, so their number bounds the
rounds. -/
def dropLines? (text : Text) : Option Text := dropLinesFor (text.length + 1) text

/-! ## Quoted strings -/

/-- The character with a number, if it is one. -/
def charOf? (number : Nat) : Option Char :=
  if number.isValidChar then some (Char.ofNat number) else none

/-- Read a character by its number in `digits` hexadecimal digits. -/
def numbered? (digits : Nat) (text : Text) : Option (Char × Text) := do
  let front := text.take digits
  if front.length ≠ digits then none
  let values ← front.mapM hexDigit?
  let char ← charOf? (values.foldl (fun number value => number * 16 + value) 0)
  pure (char, text.drop digits)

/-- Read what follows a backslash. -/
def escape? : Text → Option (Char × Text)
  | 'b' :: rest => some ('\x08', rest)
  | 't' :: rest => some ('\t', rest)
  | 'n' :: rest => some ('\n', rest)
  | 'f' :: rest => some ('\x0c', rest)
  | 'r' :: rest => some ('\r', rest)
  | '"' :: rest => some ('"', rest)
  | '\\' :: rest => some ('\\', rest)
  | 'u' :: rest => numbered? 4 rest
  | 'U' :: rest => numbered? 8 rest
  | _ => none

/-- Read the inside of a string in double quotes, and the closing quote. -/
def basicBody : Nat → Text → Option (Text × Text)
  | 0, _ => none
  | fuel + 1, text =>
      match text with
      | '"' :: rest => some ([], rest)
      | '\\' :: rest => do
          let (char, rest) ← escape? rest
          let (chars, rest) ← basicBody fuel rest
          pure (char :: chars, rest)
      | char :: rest =>
          if isPrintable char then do
            let (chars, rest) ← basicBody fuel rest
            pure (char :: chars, rest)
          else none
      | [] => none

/-- Drop blanks and line ends. -/
def dropFold (text : Text) : Text :=
  text.dropWhile fun char => isBlank char || char == '\n' || char == '\r'

/-- Whether a text starts with a carriage return that no line feed follows, or holds one among its
leading blanks. -/
def strayReturn : Text → Bool
  | '\r' :: '\n' :: rest => strayReturn rest
  | '\r' :: _ => true
  | char :: rest => if isBlank char || char == '\n' then strayReturn rest else false
  | [] => false

/-- Read a folded line end: a backslash, blanks, a line end, and all blanks and line ends after it. -/
def fold? (text : Text) : Option Text := do
  let rest ← newline? (dropBlank text)
  if strayReturn rest then none else some (dropFold rest)

/-- Read the inside of a string in three double quotes, and the closing quotes.  Up to two quotes may
stand directly before the closing ones. -/
def longBasicBody : Nat → Text → Option (Text × Text)
  | 0, _ => none
  | fuel + 1, text =>
      match text with
      | '"' :: '"' :: '"' :: rest =>
          match rest with
          | '"' :: '"' :: rest => some (['"', '"'], rest)
          | '"' :: rest => some (['"'], rest)
          | rest => some ([], rest)
      | '\\' :: rest =>
          match fold? rest with
          | some rest => longBasicBody fuel rest
          | none => do
              let (char, rest) ← escape? rest
              let (chars, rest) ← longBasicBody fuel rest
              pure (char :: chars, rest)
      | char :: rest =>
          match newline? text with
          | some rest => do
              let (chars, rest) ← longBasicBody fuel rest
              pure ('\n' :: chars, rest)
          | none =>
              if isPrintable char then do
                let (chars, rest) ← longBasicBody fuel rest
                pure (char :: chars, rest)
              else none
      | [] => none

/-- Read the inside of a string in single quotes, and the closing quote. -/
def literalBody : Text → Option (Text × Text)
  | '\'' :: rest => some ([], rest)
  | char :: rest =>
      if isPrintable char then do
        let (chars, rest) ← literalBody rest
        pure (char :: chars, rest)
      else none
  | [] => none

/-- Read the inside of a string in three single quotes, and the closing quotes. -/
def longLiteralBody : Nat → Text → Option (Text × Text)
  | 0, _ => none
  | fuel + 1, text =>
      match text with
      | '\'' :: '\'' :: '\'' :: rest =>
          match rest with
          | '\'' :: '\'' :: rest => some (['\'', '\''], rest)
          | '\'' :: rest => some (['\''], rest)
          | rest => some ([], rest)
      | char :: rest =>
          match newline? text with
          | some rest => do
              let (chars, rest) ← longLiteralBody fuel rest
              pure ('\n' :: chars, rest)
          | none =>
              if isPrintable char then do
                let (chars, rest) ← longLiteralBody fuel rest
                pure (char :: chars, rest)
              else none
      | [] => none

/-- Drop the line end that directly follows three opening quotes. -/
def dropFirstNewline (text : Text) : Text := (newline? text).getD text

/-- Read a string on one line, in quotes of either kind. -/
def shortString? : Text → Option (String × Text)
  | '"' :: rest => (basicBody (rest.length + 1) rest).map fun (chars, rest) =>
      (String.ofList chars, rest)
  | '\'' :: rest => (literalBody rest).map fun (chars, rest) => (String.ofList chars, rest)
  | _ => none

/-- Read a string in one or three quotes of either kind. -/
def string? (text : Text) : Option (String × Text) :=
  match text with
  | '"' :: '"' :: '"' :: rest =>
      let rest := dropFirstNewline rest
      (longBasicBody (rest.length + 1) rest).map fun (chars, rest) => (String.ofList chars, rest)
  | '\'' :: '\'' :: '\'' :: rest =>
      let rest := dropFirstNewline rest
      (longLiteralBody (rest.length + 1) rest).map fun (chars, rest) =>
        (String.ofList chars, rest)
  | text => shortString? text

/-! ## Keys -/

/-- Read one part of a key: a quoted string or a run of bare characters. -/
def keyPart? (text : Text) : Option (String × Text) :=
  match text.takeWhile isBareKey with
  | [] => shortString? text
  | bare => some (String.ofList bare, text.dropWhile isBareKey)

/-- How deep values may be nested, and how many parts a key may have. -/
def nestingLimit : Nat := 79

/-- Read at most `parts` parts of a key, joined by dots; blanks may stand around each part. -/
def keyPathFor : Nat → Text → Option (List String × Text)
  | 0, _ => none
  | parts + 1, text => do
      let (part, rest) ← keyPart? (dropBlank text)
      match dropBlank rest with
      | '.' :: rest =>
          let (path, rest) ← keyPathFor parts rest
          pure (part :: path, rest)
      | rest => pure ([part], rest)

/-- Read a key. -/
def keyPath? (text : Text) : Option (List String × Text) := keyPathFor nestingLimit text

end DiagnosticGateway.Toml
