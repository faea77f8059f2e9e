/-
Module: DiagnosticGateway.Toml.Literal
Purpose: Reading a value: quoted text, a single word, an array or a table between braces.
Main exports:
  Toml.scalar?, Toml.value?
-/
import DiagnosticGateway.Toml.DateTime
import DiagnosticGateway.Toml.Number
import DiagnosticGateway.Toml.Table

/-!
All values but texts, arrays and tables are single words, so that a word is cut off first and then
recognised as a whole.  Only a moment with a space between date and time is two words.
-/

namespace DiagnosticGateway.Toml

/-- Characters of a word. -/
def isWord (char : Char) : Bool :=
  isBareKey char || char == '+' || char == '.' || char == ':'

/-- The value that a whole word stands for. -/
def word? (word : Text) : Option Value :=
  if word = ['t', 'r', 'u', 'e'] then some (.boolean true)
  else if word = ['f', 'a', 'l', 's', 'e'] then some (.boolean false)
  else
    match integer? word with
    | some number => some (.integer number)
    | none =>
        if isFloat word then some (.float (String.ofList word))
        else if isDateTime word then some (.dateTime (String.ofList word))
        else none

/-- Whether a text goes on with a space and a digit, as a date does before its time. -/
def timeFollows : Text → Bool
  | ' ' :: char :: _ => char.isDigit
  | _ => false

/-- Read a value of one word, or a moment of two. -/
def scalar? (text : Text) : Option (Value × Text) :=
  let word := text.takeWhile isWord
  let rest := text.dropWhile isWord
  if date? word == some [] && timeFollows rest then
    let time := (rest.drop 1).takeWhile isWord
    let moment := word ++ ' ' :: time
    if isDateTime moment then
      some (.dateTime (String.ofList moment), (rest.drop 1).dropWhile isWord)
    else none
  else (word? word).map fun value => (value, rest)

/-- Read at most `count - 1` elements of an array, and the closing bracket.  Blanks, comments and line
ends may stand around an element, and a comma after the last one. -/
def elementsFor (element : Text → Option (Value × Text)) :
    Nat → Text → Option (List Value × Text)
  | 0, _ => none
  | count + 1, text => do
      match ← dropLines? text with
      | ']' :: rest => pure ([], rest)
      | text =>
          let (value, text) ← element text
          match ← dropLines? text with
          | ',' :: rest =>
              let (values, rest) ← elementsFor element count rest
              pure (value :: values, rest)
          | ']' :: rest => pure ([value], rest)
          | _ => none

/-- Read at most `count` entries of a table between braces into the ones read before, and the closing
brace.  There is one at least, all stand on one line, and no comma follows the last. -/
def membersFor (element : Text → Option (Value × Text)) :
    Nat → Entries → Text → Option (Entries × Text)
  | 0, _, _ => none
  | count + 1, entries, text => do
      let (path, text) ← keyPath? text
      let text ← mark? '=' text
      let (value, text) ← element (dropBlank text)
      let entries ← entries.insert? path value
      match dropBlank text with
      | ',' :: rest => membersFor element count entries rest
      | '\x7d' :: rest => pure (entries, rest)
      | _ => none

/-- Read a value with at most `depth` arrays and tables in one another. -/
def valueWithin : Nat → Text → Option (Value × Text)
  | 0, text =>
      match text with
      | '"' :: _ | '\'' :: _ => (string? text).map fun (string, rest) => (.string string, rest)
      | text => scalar? text
  | depth + 1, text =>
      match text with
      | '"' :: _ | '\'' :: _ => (string? text).map fun (string, rest) => (.string string, rest)
      | '[' :: rest =>
          (elementsFor (valueWithin depth) (rest.length + 1) rest).map fun (values, rest) =>
            (.array values, rest)
      | '\x7b' :: rest =>
          match dropBlank rest with
          | '\x7d' :: rest => some (.table .literal [], rest)
          | rest =>
              (membersFor (valueWithin depth) (rest.length + 1) [] rest).map
                fun (entries, rest) => (.table .literal entries, rest)
      | text => scalar? text

/-- Read a value. -/
def value? (text : Text) : Option (Value × Text) := valueWithin nestingLimit text

end DiagnosticGateway.Toml
