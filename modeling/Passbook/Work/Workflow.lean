import Passbook.LockOrder
import Passbook.Outbox.Verification
import Passbook.Work.Transaction

/-!
# Workflows

A workflow is a named unit of work that happens as a whole or not at all: a money transfer, or the
creation of a user together with a side effect. How it ended is logged.
-/
namespace Passbook

variable {α : Type}

/-- How a workflow has ended. -/
inductive WorkflowOutcome
  | committed
  | rolledBack
  deriving DecidableEq, Repr

namespace WorkflowOutcome

/-- Whatever fails is rolled back. -/
def of (outcome : Except Error α) : WorkflowOutcome :=
  match outcome with
  | .ok _ => .committed
  | .error _ => .rolledBack

/-- The written name. -/
def name : WorkflowOutcome → String
  | .committed => "committed"
  | .rolledBack => "rolled_back"

end WorkflowOutcome

namespace Work

/-- Runs a workflow in a transaction and logs how it ended. -/
def runWorkflow (workflow : String) (work : Work α) : Program (Except Error α) := do
  let outcome ← runInTransaction work
  match outcome with
  | .ok _ => Program.record (.workflowCommitted workflow)
  | .error e =>
    Program.record (.workflowRolledBack workflow e)
    Program.record (.returned e)
  return outcome

/-! ## Money transfers -/

/-- Two changes of balances, the one of the lower account first. The accounts are answered in the
order of the changes; when both are the same account, both answers are its last state. -/
def adjustInOrder (a b : BalanceAdjustment) : Work (Account × Account) := do
  let pair := OrderedPair.ofPair a b
  let first ← query (.adjustBalance pair.first)
  let second ← query (.adjustBalance pair.second)
  if first.id = second.id then return (second, second)
  return pair.restore first second

/-- Records a transfer and its two entries, then moves the money. -/
def transferSteps (t : NewTransfer) : Work Posting := do
  let transfer ← query (.createTransfer t)
  let fromEntry ← query (.createEntry ⟨t.fromAccountId, -t.amount⟩)
  let toEntry ← query (.createEntry ⟨t.toAccountId, t.amount⟩)
  let (fromAccount, toAccount) ←
    adjustInOrder ⟨t.fromAccountId, -t.amount⟩ ⟨t.toAccountId, t.amount⟩
  return { transfer, fromEntry, toEntry, fromAccount, toAccount }

/-- The workflow of a money transfer. That the accounts have the same currency is up to the
caller; the store refuses a negative balance. -/
def transferMoney (t : NewTransfer) : Program (Except Error Posting) :=
  runWorkflow "money_transfer" (transferSteps t)

/-! ## User creation -/

/-- Creates a user and calls back in the same transaction. The error of a callback is the failure
of a side effect, whatever it was. -/
def createUserThen (user : NewUser) (callback : User → Work Unit) : Work User := do
  let created ← query (.createUser user)
  mapError Error.intoSideEffect (callback created)
  return created

/-- The workflow that creates a user with a callback. -/
def createUser (user : NewUser) (callback : User → Work Unit) : Program (Except Error User) :=
  runWorkflow "user_creation" (createUserThen user callback)

/-- Creates a user together with the task to send a verification mail. -/
def createUserWithTask (user : NewUser) : Work User := do
  let created ← query (.createUser user)
  let _ ← query (.enqueue (Outbox.VerificationTask.message ⟨created.username⟩))
  return created

/-- The workflow that creates a user and the task to send a verification mail: there are both or
neither. -/
def createUserWithVerification (user : NewUser) : Program (Except Error User) :=
  runWorkflow "user_creation" (createUserWithTask user)

end Work

end Passbook
