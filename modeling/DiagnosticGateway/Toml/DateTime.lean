/-
Module: DiagnosticGateway.Toml.DateTime
Purpose: Dates, times of day and moments, as they are written.
Main exports:
  Toml.daysInMonth, Toml.date?, Toml.time?, Toml.offset?, Toml.isDateTime
-/
import DiagnosticGateway.Toml.Text

/-!
A moment is a date, a time of day, or both with the distance from universal time if it is known.
Moments are checked but not computed: no setting is one.
-/

namespace DiagnosticGateway.Toml

/-- Read a number of exactly `width` decimal digits. -/
def fixedDecimal? (width : Nat) (text : Text) : Option (Nat × Text) :=
  let front := text.take width
  if front.length = width && front.all Char.isDigit then
    some (front.foldl (fun number digit => number * 10 + (digit.toNat - 48)) 0, text.drop width)
  else none

/-- Every fourth year has a leap day, but of the hundredth ones only every fourth. -/
def isLeapYear (year : Nat) : Bool :=
  year % 4 == 0 && (year % 100 != 0 || year % 400 == 0)

/-- The number of days in a month. -/
def daysInMonth (year month : Nat) : Nat :=
  if month = 2 then if isLeapYear year then 29 else 28
  else if month = 4 ∨ month = 6 ∨ month = 9 ∨ month = 11 then 30
  else 31

/-- Read a date. -/
def date? (text : Text) : Option Text := do
  let (year, text) ← fixedDecimal? 4 text
  let text ← mark? '-' text
  let (month, text) ← fixedDecimal? 2 text
  let text ← mark? '-' text
  let (day, text) ← fixedDecimal? 2 text
  if 1 ≤ month ∧ month ≤ 12 ∧ 1 ≤ day ∧ day ≤ daysInMonth year month then pure text else none

/-- Read hours and minutes. -/
def hourMinute? (text : Text) : Option Text := do
  let (hour, text) ← fixedDecimal? 2 text
  let text ← mark? ':' text
  let (minute, text) ← fixedDecimal? 2 text
  if hour ≤ 23 ∧ minute ≤ 59 then pure text else none

/-- Read a time of day.  A minute may have a leap second, and a second any number of places. -/
def time? (text : Text) : Option Text := do
  let text ← hourMinute? text
  let text ← mark? ':' text
  let (second, text) ← fixedDecimal? 2 text
  if second ≤ 60 then
    match text with
    | '.' :: fraction =>
        if (fraction.takeWhile Char.isDigit).isEmpty then none
        else pure (fraction.dropWhile Char.isDigit)
    | text => pure text
  else none

/-- Read the distance from universal time, if there is any text left. -/
def offset? : Text → Option Text
  | [] => some []
  | 'Z' :: rest => some rest
  | 'z' :: rest => some rest
  | '+' :: rest => hourMinute? rest
  | '-' :: rest => hourMinute? rest
  | _ => none

/-- Whether a whole text is a time of day with or without a distance from universal time. -/
def isClock (text : Text) : Bool := ((time? text).bind offset?) == some []

/-- Whether a whole text is a moment.  A `T` or one space stands between date and time. -/
def isDateTime (text : Text) : Bool :=
  match date? text with
  | some [] => true
  | some (mark :: rest) => (mark == 'T' || mark == 't' || mark == ' ') && isClock rest
  | none => time? text == some []

end DiagnosticGateway.Toml
