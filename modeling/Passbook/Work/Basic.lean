import Passbook.Logging.Event
import Passbook.Store.Query
import Passbook.Work.Dialogue

/-!
# Units of work and programs

A unit of work runs inside a transaction. It can query rows, read the clock, have messages
delivered and log events, but it can neither begin nor end a transaction: that is left to the
program that runs it. The types keep the two apart.
-/
namespace Passbook

open Logging (Event)
open Outbox (Message)

/-- What a run tells those who watch it. -/
inductive Note
  | unitStarted
  /-- A callback has been called with a user that was just created. -/
  | callbackCalled (user : User)
  /-- A callback has gone through all its queries, with these answers. -/
  | callbackAnswered (answers : List (Except Error Answer))

/-- What a unit of work can ask for. -/
inductive Request
  | query (q : Query)
  | clock
  /-- A handler is to deliver a message. -/
  | deliver (message : Message)
  | sleep (millis : Nat)
  | record (event : Event)
  | tell (note : Note)

/-- The type of the reply to a request. A delivery that fails says why. -/
abbrev Request.Reply : Request → Type
  | .query q => Except Error q.Row
  | .clock => Instant
  | .deliver _ => Except String Unit
  | .sleep _ | .record _ | .tell _ => Unit

abbrev Work := ExceptT Error (Dialogue Request.Reply)

namespace Work

variable {α : Type}

/-- A request whose reply is no error. -/
def request (r : Request) : Work r.Reply := ExceptT.lift (Dialogue.perform r)

/-- A query; when it fails, so does the work. -/
def query (q : Query) : Work q.Row := ExceptT.mk (Dialogue.perform (Request.query q))

/-- The instant that the clock of the rows shows. -/
def clock : Work Instant := request .clock

/-- Has a handler deliver a message; a failed delivery is no error of the work. -/
def deliver (message : Message) : Work (Except String Unit) := request (.deliver message)

def sleep (millis : Nat) : Work Unit := request (.sleep millis)

def record (event : Event) : Work Unit := request (.record event)

def tell (note : Note) : Work Unit := request (.tell note)

def mapError (f : Error → Error) (w : Work α) : Work α :=
  ExceptT.mk (w.run.andThen fun outcome => .done (outcome.mapError f))

/-- The outcome of the work; the work itself no longer fails. -/
def attempt (w : Work α) : Work (Except Error α) := ExceptT.lift w.run

end Work

inductive Action
  | begin
  | commit
  | rollback
  | inside (request : Request)

abbrev Action.Reply : Action → Type
  | .begin | .commit | .rollback => Except Error Unit
  | .inside r => r.Reply

/-- A program that begins and ends transactions. -/
abbrev Program := Dialogue Action.Reply

namespace Program

def begin : Program (Except Error Unit) := Dialogue.perform Action.begin

/-- Ends the open transaction and keeps what it has written. -/
def commit : Program (Except Error Unit) := Dialogue.perform Action.commit

/-- Ends the open transaction and takes back what it has written. -/
def rollback : Program (Except Error Unit) := Dialogue.perform Action.rollback

def record (event : Event) : Program Unit := Dialogue.perform (Action.inside (.record event))

end Program

/-- A unit of work as a part of a program, with its outcome. -/
def Work.within {α : Type} (w : Work α) : Program (Except Error α) :=
  Dialogue.embed Action.inside (fun _ reply => reply) w.run

end Passbook
