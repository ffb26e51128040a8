import Passbook.Rehearsal.Step
import Passbook.Sql.Schema
import Passbook.Sql.Server

/-!
# Playing a rehearsal against a scripted server

The steps of a rehearsal, played one after another against a server that answers from a script.
There is nobody else at the server, so a program never waits.
-/
namespace Passbook.Sql

open Rehearsal (Call Delivery Dispatcher Result Value)

/-- The state of a rehearsal against a server. -/
structure Session where
  server : Server
  /-- What the clock of the rows says. -/
  clock : Instant
  /-- Milliseconds that were spent waiting. -/
  time : Nat := 0
  /-- How long a transaction may wait for a connection. -/
  acquireTimeout : Nat
  /-- The name of the open transaction. -/
  open? : Option String := none
  dispatchers : List (String × Dispatcher) := []
  /-- What handlers were asked for, the latest first. -/
  deliveries : List Delivery := []
  /-- What the running program has told, the latest first. -/
  notes : List Note := []

namespace Session

/-- Has a handler of a dispatcher deliver a message. -/
def deliver (s : Session) (dispatcher : String) (message : Outbox.Message) :
    Session × Except String Unit :=
  match s.dispatchers.lookup dispatcher with
  | none => (s, .ok ())
  | some d =>
    let (reaction, d') := d.react message
    let s := { s with
      deliveries := ⟨d.name, message⟩ :: s.deliveries
      dispatchers := s.dispatchers.map fun (name, old) =>
        (name, if name = dispatcher then d' else old) }
    match reaction with
    | .told outcome => (s, outcome)
    | .panicked => (s, .error "")

/-- Lets time pass. -/
def elapse (s : Session) (millis : Nat) : Session := { s with time := s.time + millis }

/-- The time is up. -/
def isLate (s : Session) (limit : Option Nat) : Bool := limit.any (· < s.time)

/-- Leaves the transaction of a program that was abandoned without an end. -/
def abandon (s : Session) : Session :=
  if s.server.busy ∧ s.open? = none then { s with server := s.server.drop } else s

/-- How long it takes to learn whether a transaction can begin. -/
def openingTime (s : Session) : Nat :=
  if s.server.busy ∧ !s.server.closed then s.acquireTimeout else 0

/-- How long a handler of a dispatcher takes for a message. -/
def deliveryTime (s : Session) (dispatcher : String) (message : Outbox.Message) : Nat :=
  ((s.dispatchers.lookup dispatcher).map (·.delay message)).getD 0

/-- Runs a program, unless it is abandoned because its time is up; messages are delivered by the
handlers of a dispatcher. -/
def run {α : Type} (s : Session) (dispatcher : String) (limit : Option Nat) :
    Program α → Session × Option α
  | .done a => (s, some a)
  | .ask .begin next =>
    let s := s.elapse s.openingTime
    if s.isLate limit then (s.abandon, none)
    else
      let (server, outcome) := s.server.begin
      run { s with server } dispatcher limit (next outcome)
  | .ask .commit next =>
    let (server, outcome) := s.server.commit
    run { s with server } dispatcher limit (next outcome)
  | .ask .rollback next =>
    let (server, outcome) := s.server.rollback
    run { s with server } dispatcher limit (next outcome)
  | .ask (.inside (.query q)) next =>
    let (server, outcome) := s.server.query q
    run { s with server } dispatcher limit (next outcome)
  | .ask (.inside .clock) next => run s dispatcher limit (next s.clock)
  | .ask (.inside (.deliver message)) next =>
    let s := s.elapse (s.deliveryTime dispatcher message)
    if s.isLate limit then (s.abandon, none)
    else
      let (s, outcome) := s.deliver dispatcher message
      run s dispatcher limit (next outcome)
  | .ask (.inside (.sleep millis)) next =>
    let s := s.elapse millis
    if s.isLate limit then (s.abandon, none) else run s dispatcher limit (next ())
  | .ask (.inside (.record _)) next => run s dispatcher limit (next ())
  | .ask (.inside (.tell note)) next =>
    run { s with notes := note :: s.notes } dispatcher limit (next ())

/-- Runs a program and collects what it tells. -/
def result (s : Session) (dispatcher : String) (limit : Option Nat)
    (program : Program (Except Error Value)) : Session × Rehearsal.Reply :=
  let (s, outcome) := { s with notes := [] }.run dispatcher (limit.map (s.time + ·)) program
  ({ s with notes := [] }, .result { outcome, notes := s.notes.reverse })

def dispatcherOf : Call → String
  | .runOnce name | .drain name _ => name
  | _ => ""

/-- Opens a transaction under a name. -/
def begin (s : Session) (name : String) : Session × Rehearsal.Reply :=
  let (server, outcome) := s.server.begin
  let s := { s with server }
  match outcome with
  | .ok () => ({ s with open? := some name }, .ok)
  | .error e => (s, .done (.error e))

/-- Ends the open transaction, if it has that name. -/
def finish (s : Session) (name : String) (ending : Server → Server × Except Error Unit) :
    Session × Rehearsal.Reply :=
  if s.open? = some name then
    let (server, outcome) := ending s.server
    ({ s with server, open? := none }, .done outcome)
  else (s, .refusal)

/-- Plays a step. Those that need several transactions at a time are refused. -/
def play (s : Session) : Rehearsal.Step → Session × Rehearsal.Reply
  | .call c =>
    let dispatch? (name : String) := (s.dispatchers.lookup name).map Dispatcher.dispatch
    s.result (dispatcherOf c.call) c.limit (c.call.program dispatch?)
  | .within name operation =>
    if s.open? = some name then
      s.result "" none (return (← operation.run.within).map .answer)
    else (s, .refusal)
  | .begin name => s.begin name
  | .commit name => s.finish name Server.commit
  | .rollback name => s.finish name Server.rollback
  | .drop name => s.finish name fun server => (server.drop, .ok ())
  | .dispatcher d =>
    ({ s with dispatchers := (d.name, d) :: s.dispatchers.filter (·.1 ≠ d.name) }, .ok)
  | .handled => ({ s with deliveries := [] }, .deliveries s.deliveries.reverse)
  | _ => (s, .refusal)

def ensureSchema (s : Session) : Session × Rehearsal.Reply :=
  let (server, outcome) := s.server.ensureSchema schema
  ({ s with server }, .done outcome)

/-- Gives out no more connections. -/
def closePool (s : Session) : Session := { s with server := s.server.close }

def script (s : Session) (replies : List Reply) : Session := { s with server.replies := replies }

/-- The next control statement of a kind fails. -/
def failNext (s : Session) (c : Control) (e : ServerError) : Session :=
  { s with server.failures := (c, e) :: s.server.failures.filter (·.1 ≠ c) }

/-- Drops the transaction that is still open, and rolls back what was left without an end. -/
def close (s : Session) : Session :=
  let server := if s.server.busy then s.server.drop else s.server
  { s with server := server.settle, open? := none }

end Session

end Passbook.Sql
