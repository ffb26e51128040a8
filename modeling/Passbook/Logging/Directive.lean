import Passbook.Logging.Level
import Passbook.Text.Alphanumeric
import Passbook.Text.Numeral
import Passbook.Text.Pattern

/-!
# Directives of a log filter

A directive sets a rank for the events that it is about: those of a target, inside a span, with a
field. It is written `target[span{field=value}]=level`, of which the level may stand alone, and
without a level everything is written. The value is a number or a search pattern.

Marks are looked for in the text without the blanks at its ends, but the parts between them are cut
out of the text with those blanks, at the same places, which are counted in bytes of UTF-8. So
blanks belong to the part they stand at, and blanks in front move all the cuts.
-/
namespace Passbook.Logging

/-- A field that an event or span has, with a value if one is asked for. -/
structure FieldPattern where
  name : String
  value : Option String := none
  deriving DecidableEq, Repr

/-- Events up to a rank are written if they are of a target that starts like this one, happen
inside the span, and have the field. -/
structure Directive where
  target : String := ""
  span : Option String := none
  field : Option FieldPattern := none
  rank : Nat
  deriving DecidableEq, Repr

/-- A text in which marks are looked for, and the text out of which parts are cut, from the same
place on. -/
structure Cursor where
  marks : List Char
  parts : List Char

/-- The number of bytes of characters. -/
def byteSize (cs : List Char) : Nat := cs.foldl (fun size c => size + c.utf8Size) 0

/-- The characters in front of a place, and those after it; no place is inside a character. -/
def splitAtByte? : (place : Nat) → List Char → Option (List Char × List Char)
  | 0, cs => some ([], cs)
  | _ + 1, [] => none
  | place + 1, c :: cs =>
    if place + 1 < c.utf8Size then none
    else (splitAtByte? (place + 1 - c.utf8Size) cs).map fun (front, rest) => (c :: front, rest)

namespace Cursor

/-- All that is left to be cut out. -/
def rest (cursor : Cursor) : String := String.ofList cursor.parts

/-- The cursor after the next mark. -/
def next? (cursor : Cursor) : Option Cursor :=
  match cursor.marks with
  | [] => none
  | mark :: marks => (splitAtByte? mark.utf8Size cursor.parts).map fun (_, parts) => ⟨marks, parts⟩

/-- The part in front of the first of some marks, the mark, and the place after it. -/
def cut? (cursor : Cursor) (isMark : Char → Bool) : Option (String × Char × Cursor) := do
  let front := cursor.marks.takeWhile fun c => !isMark c
  let (part, parts) ← splitAtByte? (byteSize front) cursor.parts
  let marks := cursor.marks.dropWhile fun c => !isMark c
  let mark ← marks.head?
  return (String.ofList part, mark, ← Cursor.next? ⟨marks, parts⟩)

end Cursor

/-- A field's value is a number or a search pattern; of the numbers only those with a plus are no
patterns. -/
def isValue (text : String) : Bool :=
  Text.isPattern text ||
    match text.toList with
    | '+' :: rest => Text.isNumeral rest
    | _ => false

/-- A field's pattern: a name, and after the first `=` a value, which ends before a second one. -/
def FieldPattern.parse? (text : String) : Option FieldPattern :=
  let word (cs : List Char) : String := String.ofList (cs.takeWhile (· ≠ '='))
  match text.toList.dropWhile (· ≠ '=') with
  | [] => if text = "" then none else some ⟨text, none⟩
  | _ :: value => if isValue (word value) then some ⟨word text.toList, some (word value)⟩ else none

namespace Directive

/-- A directive may start with a letter, a digit or one of these marks. -/
def isStart (c : Char) : Bool := c = '-' || c = ':' || c = '_' || Text.isAlphanumeric c

/-- The level after its `=`; it may be left out. -/
def readLevel? (text : String) : Option Nat :=
  if text = "" then some Level.trace.rank else Level.rankOf? text

/-- What follows a span: nothing, or `=` and a level. -/
def readEnd? (cursor : Cursor) : Option Nat :=
  match cursor.marks with
  | [] => readLevel? ""
  | '=' :: _ => cursor.next?.bind fun cursor => readLevel? cursor.rest
  | _ => none

/-- The field between its braces, and the place after the bracket that closes the span. -/
def readField? (cursor : Cursor) : Option (FieldPattern × Cursor) := do
  let (text, _, cursor) ← cursor.cut? (· = '}')
  let field ← FieldPattern.parse? text
  match cursor.marks with
  | ']' :: _ => cursor.next?.map (field, ·)
  | _ => none

/-- A span after its opening bracket, and the rest of the directive. -/
def readSpan? (target : String) (cursor : Cursor) : Option Directive := do
  let (name, mark, cursor) ← cursor.cut? fun c => c = ']' || c = '{'
  if mark = '{' then
    let (field, cursor) ← readField? cursor
    return ⟨target, if name = "" then none else some name, some field, ← readEnd? cursor⟩
  else return ⟨target, some name, none, ← readEnd? cursor⟩

/-- A text without marks is a level or else a target. -/
def ofWord (text : String) : Directive :=
  match Level.rankOf? text with
  | some rank => { rank }
  | none => { target := text, rank := Level.trace.rank }

/-- Reads a directive that starts with a target or a level. -/
def readTarget? (cursor : Cursor) : Option Directive :=
  let isMark (c : Char) : Bool := c = '=' || c = '['
  if cursor.marks.any isMark then
    match cursor.cut? isMark with
    | none => none
    | some (target, '=', cursor) => (readLevel? cursor.rest).map fun rank => { target, rank }
    | some (target, _, cursor) => readSpan? target cursor
  else some (ofWord cursor.rest)

/-- Reads one directive. -/
def parse? (text : String) : Option Directive :=
  let cursor : Cursor := ⟨Text.trimChars text.toList, text.toList⟩
  match cursor.marks with
  | [] => none
  | '[' :: _ => cursor.next?.bind (readSpan? "")
  | c :: _ => if isStart c then readTarget? cursor else none

example : parse? "a[s{f=1}]=+02" = some ⟨"a", some "s", some ⟨"f", some "1"⟩, 2⟩ := by
  decide +kernel

example : parse? "info " = some { target := "info ", rank := 5 } := by decide +kernel

example : parse? " a=info" = none := by decide +kernel

/-- The directive is about spans and values, and so says nothing about an event outside spans. -/
def isDynamic (directive : Directive) : Bool :=
  directive.span.isSome || directive.field.any (·.value.isSome)

/-- The directive is about an event of a target, outside spans, with fields of these names. -/
def covers (directive : Directive) (target : String) (fields : List String) : Bool :=
  !directive.isDynamic && directive.target.toList.isPrefixOf target.toList &&
    directive.field.all fun field => fields.contains field.name

/-- How closely a directive says what it is about: by the length of its target, and of equal ones
by whether it names a field. -/
def specificity (directive : Directive) : Nat :=
  2 * directive.target.length + (if directive.field.isSome then 1 else 0)

end Directive

end Passbook.Logging
