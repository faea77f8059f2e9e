/-
Module: DiagnosticGateway.Toml.Table
Purpose: Adding keys and tables to a document that is being built up.
Main exports:
  Toml.Entries.edit?, Toml.Entries.insert?, Toml.Entries.openTable?, Toml.Entries.openElement?
-/
import DiagnosticGateway.Toml.Value

/-!
A table may be named before it is written, by a longer header or by a dotted key, and then comes into
being on the way.  What may be added to it later hangs on how it came into being.
-/

namespace DiagnosticGateway.Toml

namespace Entries

/-- Put a value in the place of the one that a key has. -/
def replace (key : String) (value : Value) (entries : Entries) : Entries :=
  entries.map fun (other, old) => if other = key then (key, value) else (other, old)

/-- Change the table at the end of a path.  Tables that do not exist yet are made.  A written-out
table and a value that is no table cannot be entered, and a dotted key cannot enter a table that has
its own header; of an array of tables the last one is entered. -/
def edit? (dotted : Bool) (change : TableOrigin → Entries → Option Entries) :
    List String → TableOrigin → Entries → Option Entries
  | [], origin, entries => change origin entries
  | key :: path, _, entries =>
      match entries.lookup key with
      | none => do
          let origin := if dotted then TableOrigin.dotted else TableOrigin.implied
          let inner ← edit? dotted change path origin []
          pure (entries ++ [(key, .table origin inner)])
      | some (.table .literal _) => none
      | some (.table origin inner) =>
          if dotted && origin == .header then none
          else do
            let inner ← edit? dotted change path origin inner
            pure (replace key (.table origin inner) entries)
      | some (.tables elements) => do
          let inner ← edit? dotted change path .header (← elements.getLast?)
          pure (replace key (.tables (elements.dropLast ++ [inner])) entries)
      | some _ => none

/-- Add a value under a key with a table before it that only dotted keys have named, or none.  No key
is given twice. -/
def add? (dotted : Bool) (key : String) (value : Value) (origin : TableOrigin) (entries : Entries) :
    Option Entries :=
  if (origin == .dotted) == dotted && (entries.lookup key).isNone then
    some (entries ++ [(key, value)])
  else none

/-- Add a value under a dotted key to a table of a given origin. -/
def insertAt? (path : List String) (value : Value) (origin : TableOrigin) (entries : Entries) :
    Option Entries := do
  let key ← path.getLast?
  let parents := path.dropLast
  edit? true (add? (!parents.isEmpty) key value) parents origin entries

/-- Add a value under a dotted key. -/
def insert? (path : List String) (value : Value) (entries : Entries) : Option Entries :=
  insertAt? path value .header entries

/-- Open the table that a header names.  It may exist only as a part of longer headers. -/
def openTable? (path : List String) (entries : Entries) : Option Entries := do
  let key ← path.getLast?
  let define (_ : TableOrigin) (entries : Entries) : Option Entries :=
    match entries.lookup key with
    | none => some (entries ++ [(key, .table .header [])])
    | some (.table .implied inner) => some (replace key (.table .header inner) entries)
    | some _ => none
  edit? false define path.dropLast .header entries

/-- Add an empty table to the array of tables that a header names. -/
def openElement? (path : List String) (entries : Entries) : Option Entries := do
  let key ← path.getLast?
  let extend (_ : TableOrigin) (entries : Entries) : Option Entries :=
    match entries.lookup key with
    | none => some (entries ++ [(key, .tables [[]])])
    | some (.tables elements) => some (replace key (.tables (elements ++ [[]])) entries)
    | some _ => none
  edit? false extend path.dropLast .header entries

/-- Add a value under a dotted key to the table that the last header has named. -/
def insertUnder? (header : List String) (path : List String) (value : Value) (entries : Entries) :
    Option Entries :=
  edit? false (insertAt? path value) header .header entries

end Entries

end DiagnosticGateway.Toml
