/-!
# Decimal numerals

The texts that are read as a number: digits with at most one point among or beside them and an
exponent, or the name of infinity or of what is not a number, in letters of either case.
-/
namespace Passbook.Text

/-- A whole number with an optional sign. -/
def isExponent (cs : List Char) : Bool :=
  let digits := match cs with
    | '+' :: rest | '-' :: rest => rest
    | _ => cs
  !digits.isEmpty && digits.all Char.isDigit

/-- What may follow the digits: nothing or an exponent. -/
def isNumeralEnd : List Char → Bool
  | [] => true
  | c :: rest => (c = 'e' || c = 'E') && isExponent rest

/-- A number without a sign. -/
def isNumeral (cs : List Char) : Bool :=
  let rest := cs.dropWhile Char.isDigit
  let whole := cs.takeWhile Char.isDigit
  let written := match rest with
    | '.' :: rest =>
      !(whole ++ rest.takeWhile Char.isDigit).isEmpty && isNumeralEnd (rest.dropWhile Char.isDigit)
    | _ => !whole.isEmpty && isNumeralEnd rest
  written || ["inf", "infinity", "nan"].contains (String.ofList (cs.map Char.toLower))

end Passbook.Text
