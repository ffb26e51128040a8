import Passbook.Outbox.Retry
import Passbook.Settings
import Passbook.Work.Transaction

/-!
# Dispatchers

A dispatcher takes due messages out of the outbox and hands them to the handlers of their topics.
One pass is one transaction: it locks a batch of messages, has them delivered one after another,
and records what became of each. A message whose topic has no handler counts as failed.
-/
namespace Passbook.Outbox

/-- What one or more passes have done. -/
structure Report where
  delivered : Nat := 0
  retried : Nat := 0
  deadLettered : Nat := 0
  deriving DecidableEq, Repr

namespace Report

/-- The messages that were taken on. -/
def processed (r : Report) : Nat := r.delivered + r.retried + r.deadLettered

def add (a b : Report) : Report :=
  ⟨a.delivered + b.delivered, a.retried + b.retried, a.deadLettered + b.deadLettered⟩

instance : Add Report := ⟨add⟩

end Report

/-- What dispatching depends on. -/
structure Dispatch where
  /-- A handler is registered for the topic. -/
  handles : String → Bool
  retryPolicy : RetryPolicy
  batchSize : UInt32

namespace Dispatch

/-- Has a message delivered, if there is a handler for it. -/
def deliver (d : Dispatch) (message : Message) : Work (Except String Unit) :=
  if d.handles message.topic then Work.deliver message
  else return .error s!"no handler for topic {message.topic}"

/-- Records that a delivery has failed, and when or whether it is tried again. -/
def recordFailure (d : Dispatch) (message : Message) (reason : String) : Work Report := do
  let attempts := message.attempts + 1
  match d.retryPolicy.onFailure attempts (← Work.clock) with
  | .retryAt instant =>
    let _ ← Work.query (.markFailed message.id reason (some instant))
    Work.record (.deliveryFailed message.id attempts reason instant)
    return { retried := 1 }
  | .deadLetter =>
    let _ ← Work.query (.markFailed message.id reason none)
    Work.record (.deadLettered message.id message.topic attempts reason)
    return { deadLettered := 1 }

/-- Has one message delivered and records what became of it. -/
def process (d : Dispatch) (message : Message) : Work Report := do
  match ← d.deliver message with
  | .ok () =>
    let _ ← Work.query (.markDelivered message.id (← Work.clock))
    Work.record (.delivered message.id message.topic)
    return { delivered := 1 }
  | .error reason => d.recordFailure message reason

def processAll (d : Dispatch) : List Message → Work Report
  | [] => return {}
  | message :: rest => do
    let report ← d.process message
    return report + (← d.processAll rest)

/-- Takes on one batch of due messages. -/
def batch (d : Dispatch) : Work Report := do
  let now ← Work.clock
  d.processAll (← Work.query (.claim d.batchSize now))

/-- One pass, in a transaction of its own. -/
def pass (d : Dispatch) : Program (Except Error Report) := Work.runInTransaction d.batch

/-- Passes until one finds nothing to do, or one fails, or there were `maxPasses`. -/
def drain (d : Dispatch) : (maxPasses : Nat) → Program (Except Error Report)
  | 0 => return .ok {}
  | maxPasses + 1 => do
    match ← d.pass with
    | .error e => return .error e
    | .ok report =>
      if report.processed = 0 then return .ok report
      match ← drain d maxPasses with
      | .error e => return .error e
      | .ok rest => return .ok (report + rest)

end Dispatch

end Passbook.Outbox
