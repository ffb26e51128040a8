import Passbook.Logging.Directive

/-!
# Log filters

A filter says which events are written. Its text is a list of directives with commas between them.
Of the directives about an event the most specific one decides, and the event is written if its
level is within the directive's rank; without a directive about it, it is not written.
-/
namespace Passbook.Logging

/-- Directives in the order in which they were given. -/
abbrev Filter := List Directive

namespace Filter

def parts (text : String) : List String := (text.splitOn ",").filter (· ≠ "")

/-- Reads a filter, all of whose directives must be right. -/
def parse? (text : String) : Option Filter := (parts text).mapM Directive.parse?

/-- The filter by which only errors are written. -/
def errors : Filter := [{ rank := Level.error.rank }]

/-- Reads a filter without its wrong directives. If nothing is left, errors are written. -/
def parseLossy (text : String) : Filter :=
  match (parts text).filterMap Directive.parse? with
  | [] => errors
  | directives => directives

/-- The directive that decides about an event: of those about it a most specific one, and of several
the last. -/
def deciding? (filter : Filter) (target : String) (fields : List String) : Option Directive :=
  (filter.filter (·.covers target fields)).foldl
    (fun best directive =>
      match best with
      | none => some directive
      | some b => if b.specificity ≤ directive.specificity then some directive else some b)
    none

/-- An event outside spans, of the target, with fields of these names, and of the level is
written. -/
def enables (filter : Filter) (target : String) (fields : List String) (level : Level) : Bool :=
  match filter.deciding? target fields with
  | none => false
  | some directive => level.rank ≤ directive.rank

end Filter

end Passbook.Logging
