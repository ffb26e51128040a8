import Passbook.Outbox.Dispatcher
import Passbook.Work.Script

/-!
# Calls

A call is one use of the ledger as a program would make it: a query, a workflow, a unit of work or
a pass of a dispatcher. A rehearsal is written down in calls, and the same calls are played against
a store in memory and against a database server.
-/
namespace Passbook.Rehearsal

open Outbox (Dispatch Report)

/-- The error of a call that cannot be read. -/
def badInput : Error := .validation "bad input"

/-- One use of the ledger. -/
inductive Call
  | query (q : Query)
  | transfer (t : NewTransfer)
  | createUser (user : NewUser) (script : Script) (failure : Option Error)
  | createUserWithVerification (user : NewUser)
  /-- A unit of work, which is run again after passing failures when `maxAttempts` is given. -/
  | unit (script : Script) (failures : List (Option Error)) (maxAttempts : Option UInt32)
  | runOnce (dispatcher : String)
  | drain (dispatcher : String) (maxPasses : Nat)
  | sleep (millis : Nat)
  /-- A call that cannot be read. -/
  | refused

/-- What a call answers. -/
inductive Value
  | answer (a : Answer)
  | answers (as : List (Except Error Answer))
  | posting (p : Posting)
  | report (r : Report)

namespace Value

/-- The answer of a call that has nothing to say. -/
def nothing : Value := .answer .nothing

end Value

/-- The answers of a unit of work, which is told how often it was started before. -/
def runUnit (script : Script) (failures : List (Option Error)) (maxAttempts : Option UInt32) :
    Program (Except Error (List (Except Error Answer))) :=
  match maxAttempts with
  | none => Work.runInTransaction (script.unit failures 0)
  | some attempts => Work.runWithRetry attempts (script.unit failures)

/-- The program of a call; `dispatch?` knows the dispatchers. -/
def Call.program (dispatch? : String → Option Dispatch) : Call → Program (Except Error Value)
  | .query q => return (← q.run).map fun row => .answer (q.answer row)
  | .transfer t => return (← Work.transferMoney t).map .posting
  | .createUser user script failure =>
    return (← Work.createUser user (script.callback failure)).map fun u => .answer (.user u)
  | .createUserWithVerification user =>
    return (← Work.createUserWithVerification user).map fun u => .answer (.user u)
  | .unit script failures maxAttempts =>
    return (← runUnit script failures maxAttempts).map .answers
  | .runOnce name =>
    match dispatch? name with
    | some d => return (← d.pass).map .report
    | none => return .error badInput
  | .drain name maxPasses =>
    match dispatch? name with
    | some d => return (← d.drain maxPasses).map .report
    | none => return .error badInput
  | .sleep millis => do
    Dialogue.perform (Action.inside (.sleep millis))
    return .ok .nothing
  | .refused => return .error badInput

end Passbook.Rehearsal
