/-
Module: DiagnosticGateway.Toml.Document
Purpose: Whole documents: lines that give a key its value and headers that open tables.
Main exports:
  Toml.Expression, Toml.expression?, Toml.expressions?, Toml.Draft, Toml.document?
-/
import DiagnosticGateway.Toml.Literal

/-!
A document is a list of expressions, each of which ends its line.  A document is read in full before
its tables are put together.
-/

namespace DiagnosticGateway.Toml

/-- What a line of a document says. -/
inductive Expression where
  | blank
  /-- A dotted key and its value. -/
  | keyValue (path : List String) (value : Value)
  /-- The header of a table. -/
  | header (path : List String)
  /-- The header of one more table of an array. -/
  | elementHeader (path : List String)

/-- Read an expression and the end of its line. -/
def expression? (text : Text) : Option (Expression × Text) :=
  match dropBlank text with
  | '[' :: '[' :: text => do
      let (path, text) ← keyPath? text
      let text ← mark? ']' text
      let text ← mark? ']' text
      pure (.elementHeader path, ← lineEnd? text)
  | '[' :: text => do
      let (path, text) ← keyPath? text
      let text ← mark? ']' text
      pure (.header path, ← lineEnd? text)
  | text =>
      match lineEnd? text with
      | some rest => some (.blank, rest)
      | none => do
          let (path, text) ← keyPath? text
          let text ← mark? '=' text
          let (value, text) ← value? (dropBlank text)
          pure (.keyValue path value, ← lineEnd? text)

/-- Read at most `count` expressions, up to the end of the text. -/
def expressionsFor : Nat → Text → Option (List Expression)
  | _, [] => some []
  | 0, _ => none
  | count + 1, text => do
      let (expression, rest) ← expression? text
      let expressions ← expressionsFor count rest
      pure (expression :: expressions)

/-- Read all expressions of a text.  One that does not end the text drops a line end at least, so the
characters bound their number. -/
def expressions? (text : Text) : Option (List Expression) := expressionsFor text.length text

/-- A document that is being put together, and the table that the last header has opened. -/
structure Draft where
  entries : Entries := []
  current : List String := []

/-- Add an expression to a document. -/
def Draft.add? (draft : Draft) : Expression → Option Draft
  | .blank => some draft
  | .keyValue path value =>
      (draft.entries.insertUnder? draft.current path value).map fun entries =>
        { draft with entries := entries }
  | .header path =>
      (draft.entries.openTable? path).map fun entries => { entries := entries, current := path }
  | .elementHeader path =>
      (draft.entries.openElement? path).map fun entries => { entries := entries, current := path }

/-- Drop the mark that may stand before the first character of a text. -/
def dropByteOrderMark : Text → Text
  | '\uFEFF' :: rest => rest
  | text => text

/-- Read a document. -/
def document? (source : String) : Option Value := do
  let expressions ← expressions? (dropByteOrderMark source.toList)
  let draft ← expressions.foldlM Draft.add? {}
  pure (.table .header draft.entries)

end DiagnosticGateway.Toml
