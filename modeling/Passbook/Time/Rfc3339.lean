import Passbook.Text.Blank
import Passbook.Time.Instant
import Passbook.Json.Codec

/-!
# Instants as RFC 3339 text

An instant is written in UTC with a `Z`; its fraction is left out when zero and has three, six or
nine digits otherwise, the fewest that are exact. Years from 0 to 9999 have four digits, others a
sign and at least four. A leap second is the sixtieth second of its minute.

Reading is laxer. Numbers may have fewer digits than their fields, with blanks in front of them and
of the marks between them; a blank may stand in place of the `T`, and `UTC` in place of the `Z`; the
fraction may have any length, of which nine digits count; and any offset below a day is taken.
-/
namespace Passbook.Time

open Text (dropBlanks isBlank)

/-- A number in decimal with zeros in front up to a width. -/
def padded (width n : Nat) : String :=
  let digits := toString n
  String.ofList (List.replicate (width - digits.length) '0') ++ digits

def yearText (year : Int) : String :=
  if 0 ≤ year ∧ year ≤ 9999 then padded 4 year.toNat
  else (if year < 0 then "-" else "+") ++ padded 4 year.natAbs

/-- The fraction of a second, with its point, in groups of three digits. -/
def fractionText (nanos : Nat) : String :=
  if nanos = 0 then ""
  else if nanos % 1000000 = 0 then "." ++ padded 3 (nanos / 1000000)
  else if nanos % 1000 = 0 then "." ++ padded 6 (nanos / 1000)
  else "." ++ padded 9 nanos

def render (t : Instant) : String :=
  let date := dateOfDay (t.second / 86400)
  let time := (t.second % 86400).toNat
  yearText date.year ++ "-" ++ padded 2 date.month ++ "-" ++ padded 2 date.day ++ "T"
    ++ padded 2 (time / 3600) ++ ":" ++ padded 2 (time / 60 % 60) ++ ":"
    ++ padded 2 (time % 60 + t.nanos / Instant.nanosPerSecond)
    ++ fractionText (t.nanos % Instant.nanosPerSecond) ++ "Z"

def digitsNumber (digits : List Char) : Nat :=
  digits.foldl (fun n c => n * 10 + (c.toNat - '0'.toNat)) 0

/-- A number of one digit or more, but not more than `width`, at the front of a text, and the
rest. -/
def readNumber? (width : Nat) (cs : List Char) : Option (Nat × List Char) :=
  let digits := (cs.take width).takeWhile Char.isDigit
  if digits = [] then none else some (digitsNumber digits, cs.drop digits.length)

/-- A number in a field of that width, with blanks in front. -/
def readField? (width : Nat) (cs : List Char) : Option (Nat × List Char) :=
  readNumber? width (dropBlanks cs)

/-- The text after a mark that it must start with, after blanks. -/
def dropMark? (mark : Char) (cs : List Char) : Option (List Char) :=
  match dropBlanks cs with
  | [] => none
  | c :: rest => if c = mark then some rest else none

/-- The year at the front of a timestamp: up to four digits, or a sign and as many as there are. -/
def readYear? (cs : List Char) : Option (Int × List Char) :=
  match dropBlanks cs with
  | '+' :: rest => (readNumber? rest.length rest).map fun (n, rest) => (n, rest)
  | '-' :: rest => (readNumber? rest.length rest).map fun (n, rest) => (-n, rest)
  | rest => (readNumber? 4 rest).map fun (n, rest) => (n, rest)

def readDate? (cs : List Char) : Option (Date × List Char) := do
  let (year, cs) ← readYear? cs
  let (month, cs) ← readField? 2 (← dropMark? '-' cs)
  let (day, cs) ← readField? 2 (← dropMark? '-' cs)
  return (⟨year, month, day⟩, cs)

/-- What stands between the date and the time: a `T` of either case or a plain space. -/
def dropSeparator? : List Char → Option (List Char)
  | [] => none
  | c :: rest => if c = 'T' ∨ c = 't' ∨ c = ' ' then some rest else none

/-- The nanoseconds of a fraction's digits, of which the first nine count. -/
def fractionNanos (digits : List Char) : Nat :=
  let kept := digits.take 9
  digitsNumber kept * Nat.pow 10 (9 - kept.length)

/-- The optional fraction of a second. -/
def readFraction? (cs : List Char) : Option (Nat × List Char) :=
  match cs with
  | '.' :: rest =>
    let digits := rest.takeWhile Char.isDigit
    if digits = [] then none else some (fractionNanos digits, rest.dropWhile Char.isDigit)
  | _ => some (0, cs)

/-- A time of day; the sixtieth second of a minute is a leap second. -/
structure TimeOfDay where
  hour : Nat
  minute : Nat
  second : Nat
  nanos : Nat

namespace TimeOfDay

/-- The time exists on a day with leap seconds in all of its minutes. -/
def Exists (time : TimeOfDay) : Prop := time.hour < 24 ∧ time.minute < 60 ∧ time.second ≤ 60

instance (time : TimeOfDay) : Decidable time.Exists := by
  unfold Exists
  infer_instance

/-- The second of the day; a leap second belongs to the one before. -/
def secondOfDay (time : TimeOfDay) : Nat :=
  time.hour * 3600 + time.minute * 60 + min time.second 59

/-- The nanoseconds in the second of the day. -/
def nanosOfSecond (time : TimeOfDay) : Nat :=
  if time.second = 60 then Instant.nanosPerSecond + time.nanos else time.nanos

end TimeOfDay

def readTime? (cs : List Char) : Option (TimeOfDay × List Char) := do
  let (hour, cs) ← readField? 2 cs
  let (minute, cs) ← readField? 2 (← dropMark? ':' cs)
  let (second, cs) ← readField? 2 (← dropMark? ':' cs)
  let (nanos, cs) ← readFraction? cs
  return (⟨hour, minute, second, nanos⟩, cs)

def readPair? : List Char → Option (Nat × List Char)
  | a :: b :: rest => if a.isDigit ∧ b.isDigit then some (digitsNumber [a, b], rest) else none
  | _ => none

/-- The sign of an offset; the sign for minus may be a hyphen. -/
def readSign? : List Char → Option (Int × List Char)
  | '+' :: rest => some (1, rest)
  | '-' :: rest | '−' :: rest => some (-1, rest)
  | _ => none

/-- The text after `UTC` in letters of either case. -/
def dropUtc? : List Char → Option (List Char)
  | u :: t :: c :: rest =>
    if [u, t, c].map Char.toUpper = ['U', 'T', 'C'] then some rest else none
  | _ => none

/-- An offset in hours and minutes, in seconds. Blanks and colons may stand between the two. -/
def readOffset? (cs : List Char) : Option (Int × List Char) := do
  let (sign, cs) ← readSign? cs
  let (hours, cs) ← readPair? cs
  let (minutes, cs) ← readPair? (cs.dropWhile fun c => c = ':' || isBlank c)
  if hours < 24 ∧ minutes < 60 then
    return (sign * (hours * 3600 + minutes * 60 : Nat), cs)
  else none

/-- The zone at the front of a text, as its offset from UTC in seconds. -/
def readZone? (cs : List Char) : Option (Int × List Char) :=
  match dropUtc? cs, cs with
  | some rest, _ => some (0, rest)
  | none, 'Z' :: rest | none, 'z' :: rest => some (0, rest)
  | none, _ => readOffset? cs

/-- The instant of a date and time at an offset. Both the date as it is written and the instant must
be representable. -/
def instant? (date : Date) (time : TimeOfDay) (offset : Int) : Option Instant :=
  if date.Exists ∧ Instant.firstYear ≤ date.year ∧ date.year ≤ Instant.lastYear ∧ time.Exists then
    Instant.ofParts? (date.dayNumber * 86400 + time.secondOfDay - offset) time.nanosOfSecond
  else none

/-- Reads a timestamp, which may have blanks around it. -/
def parse? (text : String) : Option Instant := do
  let (date, cs) ← readDate? text.toList
  let (time, cs) ← readTime? (← dropSeparator? cs)
  let (offset, cs) ← readZone? (dropBlanks cs)
  if cs.all isBlank then instant? date time offset else none

end Passbook.Time

namespace Passbook

instance : Encode Instant := ⟨fun t => .string (Time.render t)⟩
instance : Decode Instant := ⟨fun | .string text => Time.parse? text | _ => none⟩

end Passbook
