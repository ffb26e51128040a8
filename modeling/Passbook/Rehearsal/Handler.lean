import Passbook.Outbox.Dispatcher
import Passbook.Outbox.Verification

/-!
# Scripted handlers

A handler of a rehearsal does what it has been told: it succeeds, fails, or breaks down. Every
delivery that it is asked for is written down.
-/
namespace Passbook.Rehearsal

open Outbox (Dispatch Message VerificationTask)

/-- What a handler does with the messages that it is given. -/
inductive Behaviour
  | succeed
  | fail
  /-- Fails a number of times and then succeeds. -/
  | flaky
  /-- Succeeds with the tasks to send a verification mail. -/
  | verifyEmail
  | panic
  deriving DecidableEq, Repr

/-- A handler with a script. -/
structure Handler where
  behaviour : Behaviour
  /-- The causes of its failures, outermost first. -/
  chain : List String := []
  /-- The failures that a flaky handler has left. -/
  failures : Nat := 0
  /-- How long a delivery takes, in milliseconds. -/
  delay : Nat := 0

/-- How a delivery ends. -/
inductive Reaction
  | told (outcome : Except String Unit)
  | panicked

namespace Handler

/-- The failure with all its causes. -/
def failure (h : Handler) : Reaction := .told (.error (": ".intercalate h.chain))

/-- How the delivery of a message ends, and the handler for the next one. -/
def react (h : Handler) (message : Message) : Reaction × Handler :=
  match h.behaviour with
  | .succeed => (.told (.ok ()), h)
  | .fail => (h.failure, h)
  | .flaky =>
    if h.failures = 0 then (.told (.ok ()), h)
    else (h.failure, { h with failures := h.failures - 1 })
  | .verifyEmail =>
    if (VerificationTask.ofPayload? message.payload).isSome then (.told (.ok ()), h)
    else (h.failure, h)
  | .panic => (.panicked, h)

end Handler

/-- A dispatcher with its handlers, one for each topic. -/
structure Dispatcher where
  name : String
  settings : DispatcherSettings := {}
  handlers : List (String × Handler) := []

namespace Dispatcher

/-- Registers a handler; an earlier one for the topic makes way. -/
def register (d : Dispatcher) (topic : String) (h : Handler) : Dispatcher :=
  { d with handlers := (topic, h) :: d.handlers.filter (·.1 ≠ topic) }

/-- What its passes depend on. -/
def dispatch (d : Dispatcher) : Dispatch where
  handles topic := (d.handlers.lookup topic).isSome
  retryPolicy := d.settings.retryPolicy
  batchSize := d.settings.batchSize

/-- Has the handler of its topic react to a message. -/
def react (d : Dispatcher) (message : Message) : Reaction × Dispatcher :=
  match d.handlers.lookup message.topic with
  | none => (.told (.ok ()), d)
  | some h =>
    let (reaction, h) := h.react message
    (reaction, d.register message.topic h)

def delay (d : Dispatcher) (message : Message) : Nat :=
  ((d.handlers.lookup message.topic).map Handler.delay).getD 0

end Dispatcher

/-- A delivery that a handler was asked for. -/
structure Delivery where
  dispatcher : String
  message : Message

end Passbook.Rehearsal
