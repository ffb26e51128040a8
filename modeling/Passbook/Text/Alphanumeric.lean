import Passbook.Text.Alphabetic
import Passbook.Text.Numeric

/-!
# Letters and digits
-/
namespace Passbook.Text

/-- A letter or a number. -/
def isAlphanumeric (c : Char) : Bool := isAlphabetic c || isNumeric c

end Passbook.Text
