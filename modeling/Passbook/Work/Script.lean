import Passbook.Work.Workflow

/-!
# Scripts

A script is a unit of work written down as a list of operations. They are run in order; the first
that fails ends the script with its error, except for those that may fail, whose error is their
answer.
-/
namespace Passbook

/-- One operation of a script. -/
inductive Operation
  | query (q : Query)
  /-- Claims the messages that are due when the operation is run. -/
  | claimDue (limit : UInt32)
  | adjustInOrder (a b : BalanceAdjustment)
  | sleep (millis : Nat)
  /-- An operation that cannot be read; running it fails. -/
  | refused (error : Error)
  deriving DecidableEq

namespace Operation

/-- Runs an operation. -/
def run : Operation → Work Answer
  | .query q => return q.answer (← Work.query q)
  | .claimDue limit => do
    let now ← Work.clock
    return .messages (← Work.query (.claim limit now))
  | .adjustInOrder a b => do
    let (first, second) ← Work.adjustInOrder a b
    return .accounts [first, second]
  | .sleep millis => do
    Work.sleep millis
    return .nothing
  | .refused error => throw error

end Operation

/-- One line of a script. -/
structure Line where
  operation : Operation
  /-- The script goes on when the operation fails. -/
  mayFail : Bool := false

/-- Operations in the order in which they are run. -/
abbrev Script := List Line

namespace Script

/-- Runs a script; the answers are those of its lines. -/
def run : Script → Work (List (Except Error Answer))
  | [] => return []
  | line :: rest => do
    let answer ←
      if line.mayFail then Work.attempt line.operation.run
      else Except.ok <$> line.operation.run
    return answer :: (← run rest)

/-- Fails with an error, if there is one. -/
def failWith (error : Option Error) : Work Unit :=
  match error with
  | some e => throw e
  | none => return ()

/-- The script as a unit of work that may be run several times. After its operations, the run with
that number fails with its error in `failures`, if it has one. -/
def unit (script : Script) (failures : List (Option Error)) (starts : Nat) :
    Work (List (Except Error Answer)) := do
  Work.tell .unitStarted
  let answers ← run script
  failWith (failures[starts]?.join)
  return answers

/-- The script as a callback, which fails after its operations when there is an error to fail
with. -/
def callback (script : Script) (failure : Option Error) (user : User) : Work Unit := do
  Work.tell (.callbackCalled user)
  let answers ← run script
  Work.tell (.callbackAnswered answers)
  failWith failure

end Script

end Passbook
