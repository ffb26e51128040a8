import Passbook.Text.Blank
import Passbook.Text.Hexadecimal

/-!
# Items of a search pattern

The smallest parts of a pattern: a character, which may be escaped; any character; a family of
characters; and a position in the text. Some can be searched for only in some modes. In the mode of
Unicode there are neither families nor word boundaries, and no case can be ignored; in the mode of
ASCII nothing may match a part of a character.
-/
namespace Passbook.Text.Pattern

/-- How a part of a pattern is read and searched for. -/
structure Mode where
  /-- Upper and lower case are the same. -/
  caseless : Bool := false
  /-- Characters are those of Unicode, or else of ASCII. -/
  unicode : Bool := true
  /-- Blanks are no part of the pattern, and neither are comments from `#` to the end of a line. -/
  spaced : Bool := false
  deriving DecidableEq, Repr

/-- The text after blanks and comments; it may start in a comment. -/
def skipIgnored : (comment : Bool) → List Char → List Char
  | _, [] => []
  | true, c :: rest => skipIgnored (c ≠ '\n') rest
  | false, c :: rest =>
    if isBlank c then skipIgnored false rest
    else if c = '#' then skipIgnored true rest
    else c :: rest

/-- The text after what is no part of the pattern. -/
def Mode.skip (mode : Mode) (cs : List Char) : List Char :=
  if mode.spaced then skipIgnored false cs else cs

/-- One of the smallest parts of a pattern. -/
inductive Item
  | character (c : Char)
  /-- A character that is written by the two digits of its code. -/
  | code (c : Char)
  | any
  /-- The digits, the blanks or the letters of words, or all but those. -/
  | family (negated : Bool)
  /-- The start or the end of a line or of the text. -/
  | border
  /-- A place where a word starts or ends, or where none does. -/
  | wordBorder
  deriving DecidableEq, Repr

namespace Item

/-- The item can be searched for by itself. -/
def isUsable (mode : Mode) : Item → Bool
  | .character _ => !(mode.caseless && mode.unicode)
  | .code c => if mode.unicode then !mode.caseless else c.toNat < 128
  | .any => mode.unicode
  | .family negated => !mode.unicode && !negated
  | .border => true
  | .wordBorder => !mode.unicode

/-- The item can be a member of a set of characters. -/
def isMember (mode : Mode) : Item → Bool
  | .character c | .code c => if mode.unicode then !mode.caseless else c.toNat < 128
  | .family negated => !mode.unicode && !negated
  | .any | .border | .wordBorder => false

/-- The character that an item is. -/
def character? : Item → Option Char
  | .character c | .code c => some c
  | _ => none

end Item

/-- The character whose code has `count` more digits after `value`. -/
def readCode? (mode : Mode) : (count value : Nat) → List Char → Option (Char × List Char)
  | 0, value, cs => if value.isValidChar then some (Char.ofNat value, cs) else none
  | count + 1, value, cs =>
    match mode.skip cs with
    | [] => none
    | c :: rest => (hexDigit? c).bind fun digit => readCode? mode count (value * 16 + digit) rest

/-- What stands after a backslash. Letters and digits have meanings of their own or none; every
other character of ASCII stands for itself. -/
def readEscape? (mode : Mode) : List Char → Option (Item × List Char)
  | [] => none
  | c :: rest =>
    match c with
    | 'x' => (readCode? mode 2 0 rest).map fun (c, rest) => (.code c, rest)
    | 'u' => (readCode? mode 4 0 rest).map fun (c, rest) => (.character c, rest)
    | 'U' => (readCode? mode 8 0 rest).map fun (c, rest) => (.character c, rest)
    | 'a' => some (.character '\x07', rest)
    | 't' => some (.character '\t', rest)
    | 'n' => some (.character '\n', rest)
    | 'v' => some (.character '\x0b', rest)
    | 'f' => some (.character '\x0c', rest)
    | 'r' => some (.character '\r', rest)
    | 'd' | 's' | 'w' => some (.family false, rest)
    | 'D' | 'S' | 'W' => some (.family true, rest)
    | 'A' | 'z' => some (.border, rest)
    | 'b' | 'B' | '<' | '>' => some (.wordBorder, rest)
    | c => if c.toNat < 128 ∧ !c.isAlphanum then some (.character c, rest) else none

end Passbook.Text.Pattern
