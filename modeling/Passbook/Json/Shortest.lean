import Passbook.Json.Number

/-!
# Shortest decimals

A binary64 value stands for all reals that are rounded to it. Of the decimals among them the
shortest one is on the coarsest grid of a power of ten; of two on that grid it is the nearer one,
and of two equally near the even one. It is written with its point where that is short, and with an
exponent otherwise.
-/
namespace Passbook.Json

/-- The number `digits · 10 ^ exponent`. -/
structure Decimal where
  digits : Nat
  exponent : Int
  deriving DecidableEq, Repr

/-- The positive value `mantissa · 2 ^ power`. -/
structure Magnitude where
  mantissa : Nat
  power : Int
  /-- The next smaller value is half as far away as the next greater one. -/
  closerBelow : Bool
  deriving DecidableEq, Repr

namespace Magnitude

/-- The value without its sign, from the bits of its exponent and of its fraction. -/
def ofFields (exponent fraction : Nat) : Magnitude :=
  if exponent = 0 then ⟨fraction, -1074, false⟩
  else ⟨fractions + fraction, (exponent : Int) - 1075, fraction = 0 && 1 < exponent⟩

/-- What of the grid of `10 ^ exponent` is next to the value and rounded to it. All is measured in
parts of which `unit` make a quarter of the value's last binary place and `step` a step of the
grid. -/
def onGrid? (x : Magnitude) (exponent : Int) : Option Decimal :=
  let unit := Nat.pow 2 (x.power - 2).toNat * Nat.pow 10 (-exponent).toNat
  let step := Nat.pow 2 (2 - x.power).toNat * Nat.pow 10 exponent.toNat
  let value := 4 * x.mantissa * unit
  let low := value - (if x.closerBelow then unit else 2 * unit)
  let high := value + 2 * unit
  let isRoundedTo (digits : Nat) : Bool :=
    if x.mantissa % 2 = 0 then low ≤ digits * step && digits * step ≤ high
    else low < digits * step && digits * step < high
  let below := value / step
  let above := below + 1
  let nearer :=
    if 2 * (value % step) < step then below
    else if step < 2 * (value % step) then above
    else if below % 2 = 0 then below
    else above
  match isRoundedTo below, isRoundedTo above with
  | true, true => some ⟨nearer, exponent⟩
  | true, false => some ⟨below, exponent⟩
  | false, true => some ⟨above, exponent⟩
  | false, false => none

/-- The exponents of the grids that binary64 values need, the coarsest first. -/
def gridExponents : List Int := (List.range 634).map fun (n : Nat) => 309 - (n : Int)

/-- The shortest decimal that is rounded to the value. -/
def shortest (x : Magnitude) : Decimal :=
  (gridExponents.findSome? x.onGrid?).getD ⟨0, 0⟩

end Magnitude

/-- The text of a decimal: with its point if that stands behind no more than sixteen digits or
before no more than four zeros, and otherwise with an exponent after one digit and the point. -/
def Decimal.text (d : Decimal) : String :=
  let digits := Nat.toDigits 10 d.digits
  let point : Int := digits.length + d.exponent
  let zeros (n : Int) : List Char := List.replicate n.toNat '0'
  String.ofList <|
    if 16 < point ∨ point ≤ -5 then
      (match digits with
        | [] => []
        | [first] => [first]
        | first :: rest => first :: '.' :: rest) ++ 'e' :: (toString (point - 1)).toList
    else if point ≤ 0 then '0' :: '.' :: zeros (-point) ++ digits
    else if 0 ≤ d.exponent then digits ++ zeros d.exponent ++ ['.', '0']
    else digits.take point.toNat ++ '.' :: digits.drop point.toNat

/-- The text of a binary64 value; what is not a number is written as `null`. -/
def doubleText (bits : UInt64) : String :=
  let raw := bits.toNat
  let sign := if raw / fractions / exponents = 0 then "" else "-"
  let exponent := raw / fractions % exponents
  let fraction := raw % fractions
  if exponent = exponents - 1 then "null"
  else if exponent = 0 ∧ fraction = 0 then sign ++ "0.0"
  else sign ++ (Magnitude.ofFields exponent fraction).shortest.text

example : (Magnitude.ofFields 1022 0).shortest = ⟨5, -1⟩ := by decide +kernel
example : (Magnitude.ofFields 1019 2702159776422298).shortest = ⟨1, -1⟩ := by decide +kernel
example : (Magnitude.ofFields 0 1).shortest = ⟨5, -324⟩ := by decide +kernel
example : Decimal.text ⟨12, 0⟩ = "12.0" := by decide +kernel
example : Decimal.text ⟨12, -1⟩ = "1.2" := by decide +kernel
example : Decimal.text ⟨12, -6⟩ = "0.000012" := by decide +kernel
example : Decimal.text ⟨12, -7⟩ = "1.2e-6" := by decide +kernel
example : Decimal.text ⟨12, 15⟩ = "1.2e16" := by decide +kernel

end Passbook.Json
