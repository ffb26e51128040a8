import Passbook.Text.Integer

/-!
# Log levels

How much an event matters. Filters write a level as its name or its number, and no level at all as
`off` or zero.
-/
namespace Passbook.Logging

/-- How much an event matters. -/
inductive Level
  | error
  | warn
  | info
  | debug
  | trace
  deriving DecidableEq, Repr

namespace Level

def name : Level → String
  | .error => "ERROR"
  | .warn => "WARN"
  | .info => "INFO"
  | .debug => "DEBUG"
  | .trace => "TRACE"

/-- The level's place, from one for errors to five for traces. -/
def rank : Level → Nat
  | .error => 1
  | .warn => 2
  | .info => 3
  | .debug => 4
  | .trace => 5

/-- The rank that a name stands for, in letters of either case; zero switches events off. -/
def rankOfName? (text : String) : Option Nat :=
  match text.map Char.toLower with
  | "off" => some 0
  | "error" => some error.rank
  | "warn" => some warn.rank
  | "info" => some info.rank
  | "debug" => some debug.rank
  | "trace" => some trace.rank
  | _ => none

def rankOf? (text : String) : Option Nat :=
  match Text.parseNat (trace.rank + 1) text with
  | .ok rank => some rank
  | .error _ => rankOfName? text

end Level

end Passbook.Logging
