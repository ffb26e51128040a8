import Passbook.Text.Ranges

/-!
# Blank characters

The characters with the Unicode property `White_Space`, and trimming by it. The set is wider than
the blanks of ASCII: it has the no-break space, the ideographic space and the line separators.
-/
namespace Passbook.Text

/-- The code points with the property `White_Space`, as closed ranges. -/
def blankRanges : Ranges :=
  [(0x9, 0xD), (0x20, 0x20), (0x85, 0x85), (0xA0, 0xA0), (0x1680, 0x1680), (0x2000, 0x200A),
    (0x2028, 0x2029), (0x202F, 0x202F), (0x205F, 0x205F), (0x3000, 0x3000)]

/-- A character of the property `White_Space`. -/
def isBlank (c : Char) : Bool := blankRanges.contains c

def dropBlanks (cs : List Char) : List Char := cs.dropWhile isBlank

/-- The text without the blanks at its two ends. -/
def trimChars (cs : List Char) : List Char := (dropBlanks (dropBlanks cs).reverse).reverse

def trim (s : String) : String := String.ofList (trimChars s.toList)

def allBlank (s : String) : Bool := s.toList.all isBlank

example :
    (blankRanges.flatMap fun (low, high) => List.range' low (high + 1 - low)).length = 25 := by
  decide

end Passbook.Text
