import Passbook.Text.Pattern.Item

/-!
# Sets of characters in a search pattern

A set is written between brackets: its members, ranges and named classes, other sets in it, and the
operators `&&`, `--` and `~~` between members. Reading a set only finds where it ends, how deeply it
is nested, and that all of it can be searched for.
-/
namespace Passbook.Text.Pattern

/-- The height of a part with the given parts, if there is more than one of them. -/
def heightOfAll : List Nat → Nat
  | [] => 0
  | [height] => height
  | heights => heights.foldl max 0 + 1

/-- A set that has been read up to some place. -/
structure OpenSet where
  /-- The heights of the members since the last operator. -/
  members : List Nat := []
  /-- The height of what stands before the last operator. -/
  left : Option Nat := none

namespace OpenSet

def add (set : OpenSet) (height : Nat) : OpenSet := { set with members := height :: set.members }

def height (set : OpenSet) : Nat :=
  let right := heightOfAll set.members
  match set.left with
  | none => right
  | some left => max left right + 1

def operate (set : OpenSet) : OpenSet := { left := some set.height }

end OpenSet

/-- The names of the classes that may stand in a set as `[:name:]`. -/
def classNames : List String :=
  ["alnum", "alpha", "ascii", "blank", "cntrl", "digit", "graph", "lower", "print", "punct",
    "space", "upper", "word", "xdigit"]

/-- A named class after its opening bracket, as whether it is negated. -/
def readClass? : List Char → Option (Bool × List Char)
  | ':' :: rest =>
    let (negated, rest) := match rest with
      | '^' :: rest => (true, rest)
      | rest => (false, rest)
    match rest.dropWhile (· ≠ ':') with
    | ':' :: ']' :: after =>
      if classNames.contains (String.ofList (rest.takeWhile (· ≠ ':'))) then some (negated, after)
      else none
    | _ => none
  | _ => none

/-- The start of a set after its opening bracket: the sign that negates it, hyphens, and a closing
bracket that is a member, as it comes first. -/
def openSet? (mode : Mode) (cs : List Char) : Option (OpenSet × List Char) :=
  let (negated, cs) := match mode.skip cs with
    | '^' :: rest => (true, mode.skip rest)
    | cs => (false, cs)
  if negated && !mode.unicode then none else (hyphens cs.length {} cs).bind bracket
where
  literal (c : Char) (set : OpenSet) (rest : List Char) : Option (OpenSet × List Char) :=
    if (Item.character c).isMember mode then some (set.add 0, mode.skip rest) else none
  hyphens : Nat → OpenSet → List Char → Option (OpenSet × List Char)
    | fuel + 1, set, '-' :: rest => (literal '-' set rest).bind fun (set, rest) =>
      hyphens fuel set rest
    | _, set, cs => some (set, cs)
  bracket : OpenSet × List Char → Option (OpenSet × List Char)
    | (set, ']' :: rest) =>
      if set.members = [] then literal ']' set rest else some (set, ']' :: rest)
    | (set, cs) => some (set, cs)

/-- A member of a set that is not a set: a character, or what stands after a backslash. -/
def readMember? (mode : Mode) : List Char → Option (Item × List Char)
  | [] => none
  | '\\' :: rest => readEscape? mode rest
  | c :: rest => some (.character c, rest)

/-- The character after a hyphen and what is no part of the pattern. Of a comment only its sign is
passed over. -/
def afterHyphen? (mode : Mode) (cs : List Char) : Option Char :=
  if mode.spaced then
    match dropBlanks cs with
    | '#' :: rest => (dropBlanks rest).head?
    | cs => cs.head?
  else cs.head?

/-- The rest of a text after a member or a range of a set. A hyphen is not the sign of a range when
the set ends after it or another hyphen follows. -/
def readRange? (mode : Mode) (cs : List Char) : Option (List Char) := do
  let (first, rest) ← readMember? mode cs
  let alone : Option (List Char) := if first.isMember mode then some rest else none
  match mode.skip rest with
  | [] => none
  | '-' :: rest =>
    let next := afterHyphen? mode rest
    if next = some ']' ∨ next = some '-' then alone
    else
      let (last, rest) ← readMember? mode (mode.skip rest)
      let low ← first.character?
      let high ← last.character?
      if first.isMember mode && last.isMember mode && low ≤ high then some rest else none
  | _ => alone

/-- The height of a set, of which the start has been read, and the text after it. -/
def readSet? (mode : Mode) : (fuel : Nat) → OpenSet → (outer : List OpenSet) → List Char →
    Option (Nat × List Char)
  | 0, _, _, _ => none
  | fuel + 1, set, outer, cs =>
    match mode.skip cs with
    | [] => none
    | '[' :: rest =>
      match readClass? rest with
      | some (negated, rest) =>
        let isMember := if mode.unicode then !mode.caseless else !negated
        if isMember then readSet? mode fuel (set.add 0) outer rest else none
      | none => (openSet? mode rest).bind fun (inner, rest) =>
        readSet? mode fuel inner (set :: outer) rest
    | ']' :: rest =>
      match outer with
      | [] => some (set.height + 1, rest)
      | parent :: outer => readSet? mode fuel (parent.add (set.height + 1)) outer rest
    | '&' :: '&' :: rest | '-' :: '-' :: rest | '~' :: '~' :: rest =>
      readSet? mode fuel set.operate outer rest
    | cs => (readRange? mode cs).bind fun rest => readSet? mode fuel (set.add 0) outer rest

/-- The height of a set after its opening bracket, and the text after it. -/
def readBracket? (mode : Mode) (cs : List Char) : Option (Nat × List Char) :=
  (openSet? mode cs).bind fun (set, rest) => readSet? mode (rest.length + 1) set [] rest

end Passbook.Text.Pattern
