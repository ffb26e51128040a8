/-!
# Whole numbers as text

An integer is written as an optional sign and decimal digits, with nothing around them. Reading
goes from left to right and stops at the first character that is no digit or the first digit that
takes the number out of range, so of two faults the earlier one is reported.
-/
namespace Passbook.Text

/-- Why a text is not a whole number in range. -/
inductive IntegerFault
  | empty
  | badDigit
  | tooLarge
  | tooSmall
  deriving DecidableEq, Repr

def IntegerFault.message : IntegerFault → String
  | .empty => "cannot parse integer from empty string"
  | .badDigit => "invalid digit found in string"
  | .tooLarge => "number too large to fit in target type"
  | .tooSmall => "number too small to fit in target type"

def digitValue? (c : Char) : Option Nat :=
  if c.isDigit then some (c.toNat - '0'.toNat) else none

/-- Reads digits after the number `value` as far as `limit` allows. -/
def readDigits (limit : Nat) (beyond : IntegerFault) : (value : Nat) → List Char →
    Except IntegerFault Nat
  | value, [] => .ok value
  | value, c :: rest =>
    match digitValue? c with
    | none => .error .badDigit
    | some d =>
      if value * 10 + d ≤ limit then readDigits limit beyond (value * 10 + d) rest
      else .error beyond

/-- Reads a magnitude: at least one digit. -/
def readMagnitude (limit : Nat) (beyond : IntegerFault) (digits : List Char) :
    Except IntegerFault Nat :=
  if digits = [] then .error .badDigit else readDigits limit beyond 0 digits

/-- A whole number of 64 bits with its sign. -/
def parseInt64 (text : String) : Except IntegerFault Int64 :=
  match text.toList with
  | [] => .error .empty
  | '-' :: digits => do
    let n ← readMagnitude Int64.minValue.toInt.natAbs .tooSmall digits
    pure (Int64.ofInt (-n))
  | '+' :: digits => do
    let n ← readMagnitude Int64.maxValue.toInt.natAbs .tooLarge digits
    pure (Int64.ofInt n)
  | digits => do
    let n ← readMagnitude Int64.maxValue.toInt.natAbs .tooLarge digits
    pure (Int64.ofInt n)

/-- A natural number below `bound`; only a plus is taken as its sign. -/
def parseNat (bound : Nat) (text : String) : Except IntegerFault Nat :=
  match text.toList with
  | [] => .error .empty
  | '+' :: digits => readMagnitude (bound - 1) .tooLarge digits
  | digits => readMagnitude (bound - 1) .tooLarge digits

end Passbook.Text
