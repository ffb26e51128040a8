import Passbook.Text.Alphanumeric
import Passbook.Text.Pattern.Bracket

/-!
# Search patterns

A search pattern is a regular expression of the kind that is searched for in linear time: without
looking around and without references to groups. It has no counted repetitions either, as those need
braces, which close what a pattern stands in. `isPattern` says which texts are patterns.
-/
namespace Passbook.Text

namespace Pattern

/-- How deeply the parts of a pattern may be nested. -/
def maxHeight : Nat := 250

/-- A part of a sequence, by its height; a change of the mode is a part that cannot be repeated. -/
inductive Part
  | part (height : Nat)
  | setting
  deriving DecidableEq, Repr

namespace Part

def height : Part → Nat
  | .part height => height
  | .setting => 0

end Part

/-- A group, or the whole pattern, that has been read up to some place. -/
structure Group where
  /-- The heights of the alternatives before the last one. -/
  alternatives : List Nat := []
  /-- The parts of the last alternative, the latest first. -/
  parts : List Part := []

namespace Group

def add (group : Group) (part : Part) : Group := { group with parts := part :: group.parts }

/-- The group after the sign between two alternatives. -/
def next (group : Group) : Group where
  alternatives := heightOfAll (group.parts.map Part.height) :: group.alternatives

/-- The group with its latest part repeated. -/
def repeatLast? (group : Group) : Option Group :=
  match group.parts with
  | .part height :: parts => some { group with parts := .part (height + 1) :: parts }
  | _ => none

def height (group : Group) : Nat := heightOfAll group.next.alternatives

end Group

/-- A pattern that has been read up to some place. -/
structure Reading where
  mode : Mode := {}
  group : Group := {}
  /-- The groups around the present one, with their modes. -/
  outer : List (Mode × Group) := []
  names : List String := []

/-- The letters that change a mode, with the sign between those that are set and those that are
not. Some change only what a pattern finds. -/
def settingSigns : List Char := ['i', 'm', 's', 'U', 'u', 'R', 'x', '-']

/-- A mode with some letters set. -/
def Mode.change (mode : Mode) (letters : List Char) (value : Bool) : Mode where
  caseless := if 'i' ∈ letters then value else mode.caseless
  unicode := if 'u' ∈ letters then value else mode.unicode
  spaced := if 'x' ∈ letters then value else mode.spaced

/-- A mode with settings: letters to set, and after a hyphen letters not to set. No sign comes
twice, and the hyphen is not the last. -/
def Mode.settings? (mode : Mode) (signs : List Char) : Option Mode :=
  if signs.all settingSigns.contains ∧ signs.Nodup ∧ signs.getLast? ≠ some '-' then
    some ((mode.change (signs.takeWhile (· ≠ '-')) true).change (signs.dropWhile (· ≠ '-')) false)
  else none

/-- The name of a group, and the text after the sign that closes it. -/
def readName? (cs : List Char) : Option (String × List Char) :=
  let name := cs.takeWhile (· ≠ '>')
  match name, cs.dropWhile (· ≠ '>') with
  | c :: more, _ :: rest =>
    if (c = '_' || isAlphabetic c) &&
        more.all fun c => ['_', '.', '[', ']'].contains c || isAlphanumeric c then
      some (String.ofList name, rest)
    else none
  | _, _ => none

namespace Reading

def add (r : Reading) (part : Part) : Reading := { r with group := r.group.add part }

def addItem? (r : Reading) (item : Item) : Option Reading :=
  if item.isUsable r.mode then some (r.add (.part 0)) else none

/-- The reading inside a group that is read in a mode. -/
def enter (r : Reading) (mode : Mode) : Reading :=
  { r with mode, group := {}, outer := (r.mode, r.group) :: r.outer }

/-- The reading inside a group that has a name. -/
def enterNamed? (r : Reading) (cs : List Char) : Option (Reading × List Char) :=
  (readName? cs).bind fun (name, rest) =>
    if r.names.contains name then none
    else some ({ r with names := name :: r.names }.enter r.mode, rest)

/-- The reading after an opening parenthesis: inside a group, or after a change of the mode. -/
def open? (r : Reading) (cs : List Char) : Option (Reading × List Char) :=
  match r.mode.skip cs with
  | '?' :: 'P' :: '<' :: rest | '?' :: '<' :: rest => r.enterNamed? rest
  | '?' :: rest =>
    let isEnd (c : Char) : Bool := c = ':' || c = ')'
    let signs := rest.takeWhile fun c => !isEnd c
    match r.mode.settings? signs, rest.dropWhile fun c => !isEnd c with
    | some mode, ':' :: rest => some (r.enter mode, rest)
    | some mode, ')' :: rest =>
      if signs = [] then none else some ({ r with mode }.add .setting, rest)
    | _, _ => none
  | rest => some (r.enter r.mode, rest)

/-- The reading after a group. -/
def close? (r : Reading) : Option Reading :=
  match r.outer with
  | [] => none
  | (mode, group) :: outer =>
    some { r with mode, group := group.add (.part (r.group.height + 1)), outer }

/-- The reading after the next part, which starts with a character. -/
def step? (r : Reading) (c : Char) (rest : List Char) : Option (Reading × List Char) :=
  match c with
  | '(' => r.open? rest
  | ')' => r.close?.map (·, rest)
  | '|' => some ({ r with group := r.group.next }, rest)
  | '[' => (readBracket? r.mode rest).map fun (height, rest) => (r.add (.part height), rest)
  | '?' | '*' | '+' =>
    r.group.repeatLast?.map fun group =>
      ({ r with group }, if rest.head? = some '?' then rest.tail else rest)
  | '{' => none
  | '\\' => (readEscape? r.mode rest).bind fun (item, rest) => (r.addItem? item).map (·, rest)
  | '.' => (r.addItem? .any).map (·, rest)
  | '^' | '$' => (r.addItem? .border).map (·, rest)
  | c => (r.addItem? (.character c)).map (·, rest)

/-- The rest of a text completes a pattern. -/
def completes : (fuel : Nat) → Reading → List Char → Bool
  | 0, _, _ => false
  | fuel + 1, r, cs =>
    match r.mode.skip cs with
    | [] => r.outer.isEmpty && r.group.height ≤ maxHeight
    | c :: rest =>
      match r.step? c rest with
      | none => false
      | some (r, rest) => completes fuel r rest

end Reading

end Pattern

/-- The text is a search pattern. -/
def isPattern (text : String) : Bool :=
  Pattern.Reading.completes (text.length + 1) {} text.toList

example : isPattern "a(b|[^c-e])*?" = true := by decide +kernel

example : isPattern "*" = false := by decide +kernel

example : isPattern "[e-c]" = false := by decide +kernel

/-- No case can be ignored in the mode of Unicode. -/
example : isPattern "(?i)x" = false ∧ isPattern "(?i-u)x" = true := by decide +kernel

end Passbook.Text
