import Passbook.Rehearsal.World

/-!
# Steps of a rehearsal

A rehearsal is a list of steps: calls of the ledger, single operations on transactions that were
opened under a name, dispatchers to be set up and run, and failures to be arranged.
-/
namespace Passbook.Rehearsal

/-- What can be made to fail. -/
inductive Moment
  | begin
  | commit
  | rollback
  deriving DecidableEq, Repr

/-- A call that may be given up after some milliseconds. -/
structure TimedCall where
  call : Call
  limit : Option Nat := none

inductive Step
  | call (c : TimedCall)
  /-- An operation on a transaction that was opened under a name. -/
  | within (name : String) (operation : Operation)
  /-- Calls one after another. -/
  | sequence (calls : List TimedCall)
  /-- Tasks that run at the same time; each is a list of calls. -/
  | concurrent (tasks : List (List TimedCall))
  | begin (name : String)
  | commit (name : String)
  | rollback (name : String)
  | drop (name : String)
  /-- The next time, that moment fails. -/
  | failNext (moment : Moment)
  | pauseAfterLock (millis : Nat)
  | idle
  | snapshot
  | totals
  /-- Sets up a dispatcher under its name. -/
  | dispatcher (d : Dispatcher)
  /-- Tells what handlers were asked for since the last time. -/
  | handled
  | spawn (name : String)
  | stats (name : String)
  | shutdown (name : String)
  | dropHandle (name : String)
  /-- A step that cannot be read. -/
  | refused

inductive Reply
  | done (outcome : Except Error Unit)
  | result (r : Result)
  | results (tasks : List (List Result))
  | count (n : Nat)
  | tables (t : Store.Tables)
  /-- The sum of the balances, and for each account the sum of its entries. -/
  | totals (balance : Int) (entries : List (AccountId × Int))
  | deliveries (ds : List Delivery)
  | stats (s : Stats)

namespace Reply

/-- The answer of a step that has nothing to say. -/
def ok : Reply := .done (.ok ())

/-- The answer to a step that cannot be taken. -/
def refusal : Reply := .done (.error badInput)

end Reply

end Passbook.Rehearsal
