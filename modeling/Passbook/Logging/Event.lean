import Passbook.Logging.Level
import Passbook.Id
import Passbook.Time.Instant

/-!
# Logged events

What happens to transactions, workflows and deliveries is logged as events with named fields.
-/
namespace Passbook.Logging

inductive Value
  | text (value : String)
  | number (value : Int)
  | flag (value : Bool)
  | instant (value : Instant)
  deriving DecidableEq

/-- Something that was worth logging. -/
inductive Event
  | transactionCommitted
  | transactionRolledBack (error : Error)
  | rollbackFailed (error rollback : Error)
  /-- An operation returned an error. -/
  | returned (error : Error)
  | retrying (attempt : Nat) (error : Error)
  | workflowCommitted (workflow : String)
  | workflowRolledBack (workflow : String) (error : Error)
  /-- A transaction ended without commit or rollback while it held so many row locks. -/
  | transactionDropped (locks : Nat)
  | delivered (id : OutboxId) (topic : String)
  | deliveryFailed (id : OutboxId) (attempts : UInt32) (reason : String) (retryAt : Instant)
  | deadLettered (id : OutboxId) (topic : String) (attempts : UInt32) (reason : String)
  | dispatcherStarted (name : String)
  | dispatcherStopped (name : String)
  | passFailed (name : String) (error : Error)
  /-- A dispatcher's loop broke down; why is not known. -/
  | dispatcherBroke
  deriving DecidableEq

namespace Event

def level : Event → Level
  | .transactionCommitted | .transactionRolledBack _ | .transactionDropped _ | .delivered ..
  | .deliveryFailed .. => .debug
  | .workflowCommitted _ | .dispatcherStarted _ | .dispatcherStopped _ => .info
  | .retrying .. | .workflowRolledBack .. | .deadLettered .. => .warn
  | .rollbackFailed .. | .returned _ | .passFailed .. | .dispatcherBroke => .error

/-- The fields of an event, its message among them. -/
def fields : Event → List (String × Value)
  | .transactionCommitted => [("message", .text "transaction committed")]
  | .transactionRolledBack e =>
    [("message", .text "transaction rolled back"), ("error", .text e.message)]
  | .rollbackFailed e r =>
    [("message", .text "rollback failed"), ("error", .text e.message),
      ("rollback_error", .text r.message)]
  | .returned e => [("error", .text e.message)]
  | .retrying attempt e =>
    [("message", .text "retrying transaction"), ("attempt", .number attempt),
      ("error", .text e.message)]
  | .workflowCommitted workflow =>
    [("message", .text "workflow finished"), ("workflow", .text workflow),
      ("outcome", .text "committed")]
  | .workflowRolledBack workflow e =>
    [("message", .text "workflow finished"), ("workflow", .text workflow),
      ("outcome", .text "rolled_back"), ("category", .text e.category.name),
      ("retryable", .flag e.isRetryable), ("error", .text e.message)]
  | .transactionDropped locks =>
    [("message", .text "in-memory transaction dropped without commit; discarding writes"),
      ("locks", .number locks)]
  | .delivered id topic =>
    [("message", .text "outbox message delivered"), ("message_id", .text id.render),
      ("topic", .text topic)]
  | .deliveryFailed id attempts reason retryAt =>
    [("message", .text "outbox delivery failed; will retry"), ("message_id", .text id.render),
      ("attempts", .number attempts.toNat), ("error", .text reason),
      ("retry_at", .instant retryAt)]
  | .deadLettered id topic attempts reason =>
    [("message", .text "outbox message dead-lettered"), ("message_id", .text id.render),
      ("topic", .text topic), ("attempts", .number attempts.toNat), ("error", .text reason)]
  | .dispatcherStarted name =>
    [("message", .text "outbox dispatcher started"), ("dispatcher", .text name)]
  | .dispatcherStopped name =>
    [("message", .text "outbox dispatcher stopped"), ("dispatcher", .text name)]
  | .passFailed name e =>
    [("message", .text "outbox dispatch pass failed"), ("dispatcher", .text name),
      ("error", .text e.message)]
  | .dispatcherBroke => [("message", .text "outbox dispatcher task failed"), ("error", .text "?")]

end Event

end Passbook.Logging
