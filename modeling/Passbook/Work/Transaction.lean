import Passbook.Work.Basic

/-!
# Transactions

A unit of work is run in a transaction of its own: it is committed when the work succeeds and
rolled back when it fails, and the work's error is the outcome. Work that failed for a passing
reason can be run again, each time in a new transaction.
-/
namespace Passbook

variable {α : Type}

/-- How one run of a unit of work has ended. -/
structure Attempt (α : Type) where
  /-- The transaction was begun, so the unit of work was run. -/
  started : Bool
  outcome : Except Error α

namespace Work

/-- Commits after work that has succeeded. -/
def settle (result : α) : Program (Except Error α) := do
  match ← Program.commit with
  | .ok () =>
    Program.record .transactionCommitted
    return .ok result
  | .error e => return .error e

/-- Rolls back after work that has failed. When that fails too, both errors are reported. -/
def undo (e : Error) : Program (Except Error α) := do
  match ← Program.rollback with
  | .ok () =>
    Program.record (.transactionRolledBack e)
    return .error e
  | .error r =>
    Program.record (.rollbackFailed e r)
    return .error (.rollbackFailed e r)

/-- One run of a unit of work in a transaction. -/
def attemptOnce (work : Work α) : Program (Attempt α) := do
  match ← Program.begin with
  | .error e => return ⟨false, .error e⟩
  | .ok () =>
    match ← work.within with
    | .ok a => return ⟨true, ← settle a⟩
    | .error e => return ⟨true, ← undo e⟩

/-- Logs an error that is about to be returned. -/
def logError (outcome : Except Error α) : Program Unit :=
  match outcome with
  | .ok _ => pure ()
  | .error e => Program.record (.returned e)

/-- One run, with its error logged. -/
def attemptLogged (work : Work α) : Program (Attempt α) := do
  let attempt ← attemptOnce work
  logError attempt.outcome
  return attempt

/-- Runs a unit of work in one transaction. -/
def runInTransaction (work : Work α) : Program (Except Error α) := do
  return (← attemptLogged work).outcome

/-- Runs a unit of work, and again up to `retries` times while its error is retryable. The unit is
told how many times it was started before, and `attempt` is the number of the coming run. -/
def runRetrying (work : Nat → Work α) : (retries attempt starts : Nat) → Program (Except Error α)
  | 0, _, starts => runInTransaction (work starts)
  | retries + 1, attempt, starts => do
    let run ← attemptLogged (work starts)
    match run.outcome with
    | .ok a => return .ok a
    | .error e =>
      if e.isRetryable then
        Program.record (.retrying attempt e)
        runRetrying work retries (attempt + 1) (if run.started then starts + 1 else starts)
      else return .error e

/-- Runs a unit of work at most `maxAttempts` times, but at least once. -/
def runWithRetry (maxAttempts : UInt32) (work : Nat → Work α) : Program (Except Error α) :=
  runRetrying work (maxAttempts.toNat - 1) 1 0

end Work

/-- The query in a transaction of its own. -/
def Query.run (q : Query) : Program (Except Error q.Row) := Work.runInTransaction (Work.query q)

end Passbook
