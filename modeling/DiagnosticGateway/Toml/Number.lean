/-
Module: DiagnosticGateway.Toml.Number
Purpose: Integers in four bases and floating-point numbers, and what they are written as.
Main exports:
  Toml.ungroup?, Toml.integer?, Toml.isFloat
-/
import DiagnosticGateway.Toml.Text

/-!
A number is read from a whole word, so that each reader here answers for all of its text or not at
all.  Floating-point numbers are checked but not computed: no setting is one.
-/

namespace DiagnosticGateway.Toml

/-! ## Digits -/

/-- Remove the underscores from a run of digits.  An underscore must stand between two digits, and
there must be a digit. -/
def ungroup? (isDigit : Char → Bool) : Text → Option Text
  | [] => none
  | [digit] => if isDigit digit then some [digit] else none
  | digit :: '_' :: rest =>
      if isDigit digit then (ungroup? isDigit rest).map (digit :: ·) else none
  | digit :: rest => if isDigit digit then (ungroup? isDigit rest).map (digit :: ·) else none

/-- The number that digits stand for in a base. -/
def ofDigits (base : Nat) (digits : Text) : Nat :=
  digits.foldl (fun number digit => number * base + (hexDigit? digit).getD 0) 0

/-- Whether a character is a digit of a base up to sixteen. -/
def isDigitOf (base : Nat) (char : Char) : Bool := (hexDigit? char).any (· < base)

/-- Split a sign off: whether it is a minus, and the rest. -/
def splitSign : Text → Bool × Text
  | '-' :: rest => (true, rest)
  | '+' :: rest => (false, rest)
  | text => (false, text)

/-- Read decimal digits that do not start with a needless zero. -/
def decimal? (word : Text) : Option Nat := do
  let digits ← ungroup? Char.isDigit word
  if digits.head? = some '0' ∧ digits.length ≠ 1 then none
  pure (ofDigits 10 digits)

/-! ## Integers -/

/-- Read digits of a base that is not ten. -/
def based? (base : Nat) (word : Text) : Option Int := do
  let digits ← ungroup? (isDigitOf base) word
  let number := Int.ofNat (ofDigits base digits)
  if number ≤ Int64.maxValue.toInt then pure number else none

/-- Read an integer.  It must fit into 64 bits with a sign; a base other than ten takes no sign. -/
def integer? : Text → Option Int
  | '0' :: 'x' :: rest => based? 16 rest
  | '0' :: 'o' :: rest => based? 8 rest
  | '0' :: 'b' :: rest => based? 2 rest
  | word => do
      let (negative, rest) := splitSign word
      let magnitude ← decimal? rest
      let number := if negative then -Int.ofNat magnitude else Int.ofNat magnitude
      if Int64.minValue.toInt ≤ number ∧ number ≤ Int64.maxValue.toInt then pure number else none

/-! ## Floating-point numbers -/

/-- The size of an exponent.  Once it has reached 65536 the digits still to come are passed over, so
that an exponent is a small number however long it is written. -/
def exponentSize (digits : Text) : Nat :=
  let append (size : Nat) (digit : Char) : Nat :=
    if size < 65536 then size * 10 + (hexDigit? digit).getD 0 else size
  digits.foldl append 0

/-- The least number whose nearest double is infinite: it lies half a step past the greatest double.
It has 309 digits. -/
def doubleBound : Nat := Nat.pow 2 1024 - Nat.pow 2 970

/-- Whether decimal digits times `10 ^ exponent` are so large that the nearest double is infinite.
A number of more than 309 places before the point is, and one of fewer is not.  Of one with 309 the
whole part decides, because the bound is an integer: it is the first 309 digits, filled up with
zeros. -/
def overflowsDouble (digits : Text) (exponent : Int) : Bool :=
  match digits.dropWhile (· == '0') with
  | [] => false
  | significant =>
      let places := Int.ofNat significant.length + exponent
      if places = 309 then
        decide (doubleBound ≤ ofDigits 10 ((significant.take 309).rightpad 309 '0'))
      else decide (309 < places)

/-- Split at the first character that starts an exponent. -/
def splitExponent (word : Text) : Text × Option Text :=
  let isMark (char : Char) : Bool := char == 'e' || char == 'E'
  match word.dropWhile fun char => !isMark char with
  | [] => (word, none)
  | _ :: exponent => (word.takeWhile fun char => !isMark char, some exponent)

/-- Split at the first point. -/
def splitPoint (word : Text) : Text × Option Text :=
  match word.dropWhile (· != '.') with
  | [] => (word, none)
  | _ :: fraction => (word.takeWhile (· != '.'), some fraction)

/-- Read the digits after a mark that need not be there. -/
def optionalDigits? : Option Text → Option Text
  | some word => ungroup? Char.isDigit word
  | none => some []

/-- Whether a word is a floating-point number: a sign if need be, then digits with a fraction, an
exponent or both, or an infinity, or no number.  A number too large for a double is none, unless it
is negative. -/
def isFloat (word : Text) : Bool :=
  let (negative, word) := splitSign word
  if word = ['i', 'n', 'f'] ∨ word = ['n', 'a', 'n'] then true
  else
    let (mantissa, exponent) := splitExponent word
    let (whole, fraction) := splitPoint mantissa
    let (down, _) := splitSign (exponent.getD [])
    let magnitude := exponent.map fun text => (splitSign text).2
    if fraction.isNone && exponent.isNone then false
    else
      match decimal? whole, optionalDigits? fraction, optionalDigits? magnitude with
      | some _, some fractionDigits, some exponentDigits =>
          let digits := whole.filter Char.isDigit ++ fractionDigits
          let shift := Int.ofNat (exponentSize exponentDigits)
          let exponent := (if down then -shift else shift) - Int.ofNat fractionDigits.length
          negative || !overflowsDouble digits exponent
      | _, _, _ => false

end DiagnosticGateway.Toml
