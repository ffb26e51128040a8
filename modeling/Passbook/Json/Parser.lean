import Passbook.Json.Number
import Passbook.Text.Hexadecimal

/-!
# Reading JSON text

A reader for one value with blanks around it. It refuses what the grammar refuses, text nested more
than 127 deep, lone surrogate escapes, and numbers beyond binary64. A field given twice keeps its
last value, and the fields of an object come out in the order of their names.
-/
namespace Passbook.Json

open Text (hexDigit?)

def isSpace (c : Char) : Bool := c == ' ' || c == '\n' || c == '\t' || c == '\r'

def skipSpace (cs : List Char) : List Char := cs.dropWhile isSpace

def takeDigits (cs : List Char) : List Nat × List Char :=
  ((cs.takeWhile Char.isDigit).map fun c => c.toNat - '0'.toNat, cs.dropWhile Char.isDigit)

/-- Four hexadecimal digits as a number. -/
def hexWord? : List Char → Option (Nat × List Char)
  | a :: b :: c :: d :: rest => do
    let a ← hexDigit? a
    let b ← hexDigit? b
    let c ← hexDigit? c
    let d ← hexDigit? d
    pure (((a * 16 + b) * 16 + c) * 16 + d, rest)
  | _ => none

/-- The character of a `\u` escape, whose `\u` has been read. A high surrogate must be followed by
the escape of a low one. -/
def escapedUnit? (cs : List Char) : Option (Char × List Char) := do
  let (unit, rest) ← hexWord? cs
  if 0xD800 ≤ unit ∧ unit < 0xDC00 then
    match rest with
    | '\\' :: 'u' :: low =>
      let (second, rest) ← hexWord? low
      if 0xDC00 ≤ second ∧ second < 0xE000 then
        pure (Char.ofNat (0x10000 + (unit - 0xD800) * 0x400 + (second - 0xDC00)), rest)
      else none
    | _ => none
  else if 0xDC00 ≤ unit ∧ unit < 0xE000 then none
  else pure (Char.ofNat unit, rest)

/-- The character that a letter stands for after a backslash. -/
def escapedLetter? : Char → Option Char
  | '"' => some '"'
  | '\\' => some '\\'
  | '/' => some '/'
  | 'b' => some '\x08'
  | 'f' => some '\x0c'
  | 'n' => some '\n'
  | 'r' => some '\r'
  | 't' => some '\t'
  | _ => none

/-- The body of a string, whose opening quote has been read; `seen` is reversed. -/
def readString : (fuel : Nat) → (seen : List Char) → List Char → Option (String × List Char)
  | 0, _, _ => none
  | fuel + 1, seen, cs =>
    match cs with
    | '"' :: rest => some (String.ofList seen.reverse, rest)
    | '\\' :: 'u' :: rest => do
      let (c, rest) ← escapedUnit? rest
      readString fuel (c :: seen) rest
    | '\\' :: letter :: rest => do
      let c ← escapedLetter? letter
      readString fuel (c :: seen) rest
    | c :: rest => if c.toNat < 0x20 ∨ c = '\\' then none else readString fuel (c :: seen) rest
    | [] => none

/-- A number: no leading zeros, and at least one digit after a point and in an exponent. -/
def readNumber (cs : List Char) : Option (Json × List Char) := do
  let (negative, cs) := match cs with
    | '-' :: rest => (true, rest)
    | _ => (false, cs)
  let (whole, cs) := takeDigits cs
  if whole = [] ∨ (whole.head? = some 0 ∧ whole.length ≠ 1) then none
  let (fraction, cs) ← match cs with
    | '.' :: rest =>
      let (digits, rest) := takeDigits rest
      if digits = [] then none else some (some digits, rest)
    | _ => some (none, cs)
  let (exponent, cs) ← match cs with
    | mark :: rest =>
      if mark = 'e' ∨ mark = 'E' then
        let (negative, rest) := match rest with
          | '-' :: rest => (true, rest)
          | '+' :: rest => (false, rest)
          | _ => (false, rest)
        let (digits, rest) := takeDigits rest
        if digits = [] then none else some (some (negative, digits), rest)
      else some (none, cs)
    | [] => some (none, cs)
  let value ← Literal.value? ⟨negative, whole, fraction, exponent⟩
  pure (value, cs)

/-- The text after a word that it must start with. -/
def dropWord? (word cs : List Char) : Option (List Char) :=
  if cs.take word.length = word then some (cs.drop word.length) else none

/-- Puts a field in its place by name; a field of that name is replaced. -/
def putField (name : String) (value : Json) : List (String × Json) → List (String × Json)
  | [] => [(name, value)]
  | (n, v) :: rest =>
    if name < n then (name, value) :: (n, v) :: rest
    else if name = n then (name, value) :: rest
    else (n, v) :: putField name value rest

mutual

/-- A value, which may open `depth` more levels of nesting. -/
def readValue : (fuel depth : Nat) → List Char → Option (Json × List Char)
  | 0, _, _ => none
  | fuel + 1, depth, cs =>
    match skipSpace cs with
    | 'n' :: rest => (dropWord? ['u', 'l', 'l'] rest).map fun rest => (.null, rest)
    | 't' :: rest => (dropWord? ['r', 'u', 'e'] rest).map fun rest => (.bool true, rest)
    | 'f' :: rest => (dropWord? ['a', 'l', 's', 'e'] rest).map fun rest => (.bool false, rest)
    | '"' :: rest => (readString (rest.length + 1) [] rest).map fun (s, rest) => (.string s, rest)
    | '[' :: rest =>
      match depth with
      | 0 => none
      | depth + 1 =>
        match skipSpace rest with
        | ']' :: rest => some (.array [], rest)
        | rest => readItems fuel depth [] rest
    | '{' :: rest =>
      match depth with
      | 0 => none
      | depth + 1 =>
        match skipSpace rest with
        | '}' :: rest => some (.object [], rest)
        | rest => readFields fuel depth [] rest
    | rest => readNumber rest

/-- The items of an array up to its end; `seen` is reversed. -/
def readItems : (fuel depth : Nat) → (seen : List Json) → List Char → Option (Json × List Char)
  | 0, _, _, _ => none
  | fuel + 1, depth, seen, cs => do
    let (item, rest) ← readValue fuel depth cs
    match skipSpace rest with
    | ',' :: rest => readItems fuel depth (item :: seen) rest
    | ']' :: rest => pure (.array (item :: seen).reverse, rest)
    | _ => none

/-- The fields of an object up to its end. -/
def readFields : (fuel depth : Nat) → (seen : List (String × Json)) → List Char →
    Option (Json × List Char)
  | 0, _, _, _ => none
  | fuel + 1, depth, seen, cs => do
    match skipSpace cs with
    | '"' :: rest =>
      let (name, rest) ← readString (rest.length + 1) [] rest
      match skipSpace rest with
      | ':' :: rest =>
        let (value, rest) ← readValue fuel depth rest
        let seen := putField name value seen
        match skipSpace rest with
        | ',' :: rest => readFields fuel depth seen rest
        | '}' :: rest => pure (.object seen, rest)
        | _ => none
      | _ => none
    | _ => none

end

/-- Reads a text that is one value. Every call below consumes a character or is the one call that
an earlier consumed character leads to, so three times the length is fuel enough. -/
def parse? (text : String) : Option Json := do
  let cs := text.toList
  let (value, rest) ← readValue (3 * cs.length + 3) 127 cs
  if skipSpace rest = [] then pure value else none

end Passbook.Json
