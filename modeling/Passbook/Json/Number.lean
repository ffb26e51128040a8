import Passbook.Json

/-!
# Number literals

A number literal without point and exponent is a whole number as long as it fits 64 bits, signed or
unsigned. Every other literal is read as a binary64 value: its leading digits, as many as fit an
unsigned 64-bit word, are rounded once and then multiplied or divided by one power of ten. So the
value that is read need not be the one nearest to the literal.
-/
namespace Passbook.Json

/-- A number literal split at its marks: digits are numbers below ten. -/
structure Literal where
  negative : Bool
  whole : List Nat
  fraction : Option (List Nat)
  /-- The exponent's sign (true when negative) and digits. -/
  exponent : Option (Bool × List Nat)

namespace Literal

/-- The digits that can follow `acc` before the number leaves 64 bits, and those left over. -/
def gather (acc : Nat) : List Nat → Nat × List Nat
  | [] => (acc, [])
  | d :: ds => if acc * 10 + d < UInt64.size then gather (acc * 10 + d) ds else (acc, d :: ds)

def digitsValue (digits : List Nat) : Nat :=
  digits.foldl (fun acc d => acc * 10 + d) 0

/-- `value · 10 ^ exponent`, unless it is infinite. Exponents below the table's are approached in
steps of `10 ^ 308`; two steps underflow to zero, so `steps` bounds the work. -/
def scale : (steps : Nat) → (value : Float) → (exponent : Int) → Option Float
  | 0, value, _ => some value
  | steps + 1, value, exponent =>
    if exponent.natAbs ≤ 308 then
      let power := Float.ofScientific 1 false exponent.natAbs
      if exponent < 0 then some (value / power)
      else if (value * power).isInf then none
      else some (value * power)
    else if value == 0.0 then some value
    else if 0 ≤ exponent then none
    else scale steps (value / Float.ofScientific 1 false 308) (exponent + 308)

/-- The binary64 value of `significand · 10 ^ exponent`. -/
def double (negative : Bool) (significand : Nat) (exponent : Int) : Option Json :=
  (scale 4 (Float.ofNat significand) exponent).map fun value =>
    .double (if negative then -value else value).toBits

/-- The value of a literal; `none` when it is too large for binary64. -/
def value? (lit : Literal) : Option Json :=
  let (wholePart, dropped) := gather 0 lit.whole
  let (significand, unread) := gather wholePart (lit.fraction.getD [])
  let places : Int := dropped.length - ((lit.fraction.getD []).length - unread.length : Nat)
  match lit.fraction, lit.exponent with
  | none, none =>
    if dropped ≠ [] then double lit.negative significand places
    else if !lit.negative then some (.integer significand)
    else if 0 < significand ∧ significand ≤ Int64.minValue.toInt.natAbs then
      some (.integer (-significand))
    else double true significand 0
  | _, none => double lit.negative significand places
  | _, some (negativePower, digits) =>
    let power := digitsValue digits
    if power ≤ Int32.maxValue.toInt.natAbs then
      double lit.negative significand (if negativePower then places - power else places + power)
    else if significand ≠ 0 ∧ !negativePower then none
    else double lit.negative 0 0

end Literal

/-- The number of patterns of the 52 bits of a fraction. -/
def fractions : Nat := 4503599627370496

/-- The number of patterns of the 11 bits of an exponent. -/
def exponents : Nat := 2048

end Passbook.Json
