import Passbook.Json.Codec
import Passbook.Order

/-!
# UUIDs

A UUID is its thirty-two hexadecimal digits, and UUIDs are ordered as their sixteen bytes are. The
written form is lower-case with hyphens in groups of 8, 4, 4, 4 and 12 digits. Reading takes any
letter case and three more spellings: without hyphens, in braces, and with `urn:uuid:` in front, of
whose letters the case does not matter either.
-/
namespace Passbook

structure Uuid where
  digits : List (Fin 16)
  length_eq : digits.length = 32 := by decide
  deriving DecidableEq, Repr

namespace Uuid

instance : Ord Uuid := ⟨compareOn Uuid.digits⟩

instance : Std.TransOrd Uuid := inferInstanceAs (Std.TransCmp (compareOn Uuid.digits))

instance : Std.LawfulEqOrd Uuid :=
  lawfulEqOn Uuid.digits fun a b h => by cases a; cases b; simp_all

def digitChar (d : Fin 16) : Char :=
  if d.val < 10 then Char.ofNat (48 + d.val) else Char.ofNat (87 + d.val)

/-- The value of a hexadecimal digit in either case. -/
def digit? (c : Char) : Option (Fin 16) :=
  if '0' ≤ c ∧ c ≤ '9' then some (Fin.ofNat 16 (c.toNat - 48))
  else if 'a' ≤ c ∧ c ≤ 'f' then some (Fin.ofNat 16 (c.toNat - 87))
  else if 'A' ≤ c ∧ c ≤ 'F' then some (Fin.ofNat 16 (c.toNat - 55))
  else none

/-- The lengths of the groups between hyphens. -/
def groups : List Nat := [8, 4, 4, 4, 12]

/-- Characters with hyphens between groups of the given lengths. -/
def hyphenate : List Nat → List Char → List Char
  | [], cs => cs
  | [_], cs => cs
  | n :: rest, cs => cs.take n ++ '-' :: hyphenate rest (cs.drop n)

/-- The characters without the hyphens between groups; `none` when one is missing. -/
def dehyphenate? : List Nat → List Char → Option (List Char)
  | [], cs => some cs
  | [_], cs => some cs
  | n :: rest, cs =>
    match cs.drop n with
    | '-' :: tail => (dehyphenate? rest tail).map (cs.take n ++ ·)
    | _ => none

def toChars (u : Uuid) : List Char := hyphenate groups (u.digits.map digitChar)

def render (u : Uuid) : String := String.ofList u.toChars

/-- Thirty-two digits as a UUID. -/
def ofDigits? (cs : List Char) : Option Uuid := do
  let digits ← cs.mapM digit?
  if h : digits.length = 32 then some ⟨digits, h⟩ else none

def ofHyphenated? (cs : List Char) : Option Uuid := do
  if cs.length = 36 then ofDigits? (← dehyphenate? groups cs) else none

/-- The characters in front of a hyphenated UUID in its form as a name, in lower case. -/
def urnMark : List Char := ['u', 'r', 'n', ':', 'u', 'u', 'i', 'd', ':']

/-- The text between braces. -/
def braced? : List Char → Option (List Char)
  | '{' :: rest => if rest.getLast? = some '}' then some rest.dropLast else none
  | _ => none

/-- Reads any of the four spellings. -/
def ofChars? (cs : List Char) : Option Uuid :=
  match braced? cs with
  | some inner => ofHyphenated? inner
  | none =>
    if (cs.take urnMark.length).map Char.toLower = urnMark then
      ofHyphenated? (cs.drop urnMark.length)
    else if cs.length = 32 then ofDigits? cs
    else ofHyphenated? cs

/-- Reads any of the four spellings. -/
def parse? (text : String) : Option Uuid := ofChars? text.toList

/-- The version number, the digit after the second hyphen. -/
def version (u : Uuid) : Nat := (u.digits[12]?.getD 0).val

/-- The hexadecimal digits of a number, `count` of them, most significant first. -/
def hexDigits : (count : Nat) → Nat → List (Fin 16)
  | 0, _ => []
  | count + 1, n => Fin.ofNat 16 (n / Nat.pow 16 count) :: hexDigits count n

theorem length_hexDigits (count n : Nat) : (hexDigits count n).length = count := by
  induction count with
  | zero => rfl
  | succ count ih => simp [hexDigits, ih]

/-- A UUID of version 7: forty-eight bits of milliseconds since 1970, so that later ones are
greater, then a counter and bits that tell apart those of one millisecond. -/
def timeOrdered (millis counter salt : Nat) : Uuid :=
  ⟨hexDigits 12 millis ++ 7 :: hexDigits 3 counter ++ 8 :: hexDigits 15 salt, by
    simp [length_hexDigits]⟩

end Uuid

instance : Encode Uuid := ⟨fun u => .string u.render⟩
instance : Decode Uuid := ⟨fun | .string text => Uuid.parse? text | _ => none⟩

end Passbook
