/-
Module: DiagnosticGateway.Toml.Value
Purpose: The values of a TOML document.
Main exports:
  Toml.TableOrigin, Toml.Value, Toml.Entries
-/

namespace DiagnosticGateway.Toml

/-- How a document came to define a table, which decides who may add to it. -/
inductive TableOrigin where
  /-- Written out between braces; nobody adds to it. -/
  | literal
  /-- Named by its own header, or the whole document. -/
  | header
  /-- Named only as part of a longer header. -/
  | implied
  /-- Named only as part of a dotted key. -/
  | dotted
deriving DecidableEq

/-- A value.  Floating-point numbers and date-times are kept by their text. -/
inductive Value where
  | string (text : String)
  | integer (number : Int)
  | float (text : String)
  | boolean (flag : Bool)
  | dateTime (text : String)
  | array (elements : List Value)
  | table (origin : TableOrigin) (entries : List (String × Value))
  /-- The tables of an array that headers have built up. -/
  | tables (elements : List (List (String × Value)))

/-- Keys and values in the order in which they were written. -/
abbrev Entries := List (String × Value)

end DiagnosticGateway.Toml
