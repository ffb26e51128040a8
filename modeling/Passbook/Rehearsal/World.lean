import Passbook.Rehearsal.Call
import Passbook.Rehearsal.Handler
import Passbook.Store.Process

/-!
# The world of a rehearsal

A store, the threads that use it, and a clock that is not the real one: it counts milliseconds and
moves on only when nobody can do anything. A thread either goes through a list of jobs or is the
background loop of a dispatcher.
-/
namespace Passbook.Rehearsal

open Logging (Event)
open Outbox (Report)
open Store (Process)

/-- A program to be run. -/
structure Job where
  program : Program (Except Error Value)
  /-- The transaction that is already open. -/
  tx : Option TxId := none
  /-- How long the program may take before it is abandoned. -/
  limit : Option Nat := none
  /-- The dispatcher whose handlers deliver messages. -/
  dispatcher : Option Nat := none

/-- How a job has ended. -/
structure Result where
  /-- There is none when the job was abandoned. -/
  outcome : Option (Except Error Value)
  notes : List Note := []
  /-- The transaction that the job has left open. -/
  tx : Option TxId := none

/-- A job that is being done. -/
structure Run where
  process : Process (Except Error Value)
  /-- What it has told, the latest first. -/
  notes : List Note := []
  /-- When it is abandoned. -/
  limit : Option Nat := none
  dispatcher : Option Nat := none
  /-- It was given a row lock and has not paused since. -/
  locked : Bool := false

/-- What the passes of a background loop have done. -/
structure Stats where
  passes : Nat := 0
  failedPasses : Nat := 0
  total : Report := {}
  deriving DecidableEq, Repr

/-- Where a background loop stands. -/
inductive LoopPhase
  | starting
  /-- About to look whether it is to stop, and to make a pass if not. -/
  | between
  | passing
  /-- Waiting for the next pass, as there was nothing to do. -/
  | idling
  /-- About to stop, as nobody has a handle on it. -/
  | leaving
  | ended (broke : Bool)
  deriving DecidableEq, Repr

/-- The background loop of a dispatcher. -/
structure Loop where
  dispatcher : Nat
  phase : LoopPhase := .starting
  stopRequested : Bool := false
  /-- Its handle was dropped. -/
  released : Bool := false
  stats : Stats := {}

/-- What a thread is for. -/
inductive Duty
  | jobs (pending : List Job) (results : List Result)
  | loop (l : Loop)

/-- Something that makes steps by itself. -/
structure Thread where
  duty : Duty
  run : Option Run := none
  /-- When its wait is over at the latest. -/
  wakeAt : Option Nat := none

namespace Thread

/-- The thread has nothing more to do. -/
def isDone (t : Thread) : Bool :=
  match t.duty with
  | .jobs pending _ => pending.isEmpty && t.run.isNone
  | .loop l => match l.phase with | .ended _ => true | _ => false

end Thread

/-- A time at which a thread is to go on. -/
structure Alarm where
  thread : Nat
  time : Nat
  /-- Its job is to be abandoned then; otherwise its wait is over. -/
  isLimit : Bool
  deriving DecidableEq, Repr

/-- The state of a rehearsal. -/
structure World where
  store : Store
  /-- What the clock of the rows says. -/
  clock : Instant
  /-- Milliseconds since the start. -/
  time : Nat := 0
  acquireTimeout : Nat
  lockTimeout : Nat
  /-- How long a thread pauses after it has taken a row lock. -/
  pause : Nat := 0
  threads : List (Nat × Thread) := []
  nextThread : Nat := 0
  /-- The thread that is at work. -/
  current : Option Nat := none
  /-- Threads that can go on, in the order in which they came to it. -/
  ready : List Nat := []
  /-- The thread of the step that is being played by itself. -/
  player : Option Nat := none
  /-- Alarms, in the order in which they were set. -/
  alarms : List Alarm := []
  /-- Threads that wait for a connection, in the order of arrival. -/
  atPool : List Nat := []
  /-- Threads that wait for a row lock, in the order of arrival. -/
  atLocks : List Nat := []
  /-- What was logged, the latest first. -/
  log : List Event := []
  /-- What handlers were asked for, the latest first. -/
  deliveries : List Delivery := []
  dispatchers : List (Nat × Dispatcher) := []
  nextDispatcher : Nat := 0
  /-- Dispatchers that can be run by their names. -/
  standing : List (String × Nat) := []
  /-- Threads of the background loops that can be reached by their names. -/
  handles : List (String × Nat) := []
  /-- Transactions that were opened under a name. -/
  transactions : List (String × TxId) := []

namespace World

variable (w : World)

def ofSettings (settings : LedgerSettings) (clock : Instant) : World where
  store := .ofConnections settings.maxConnections
  clock
  acquireTimeout := settings.acquireTimeout
  lockTimeout := settings.lockTimeout

def record (event : Event) : World := { w with log := event :: w.log }

def thread? (id : Nat) : Option Thread := w.threads.lookup id

def setThread (id : Nat) (t : Thread) : World :=
  { w with threads := w.threads.map fun (n, old) => (n, if n = id then t else old) }

def dispatcher? (id : Nat) : Option Dispatcher := w.dispatchers.lookup id

def setDispatcher (id : Nat) (d : Dispatcher) : World :=
  { w with dispatchers := w.dispatchers.map fun (n, old) => (n, if n = id then d else old) }

/-- A new thread, which can go on at once. -/
def addThread (duty : Duty) : World × Nat :=
  ({ w with
      threads := w.threads ++ [(w.nextThread, { duty })]
      ready := w.ready ++ [w.nextThread]
      nextThread := w.nextThread + 1 }, w.nextThread)

def removeThread (id : Nat) : World :=
  { w with
    threads := w.threads.filter (·.1 ≠ id)
    ready := w.ready.filter (· ≠ id)
    alarms := w.alarms.filter (·.thread ≠ id) }

/-- Puts a thread behind those that can go on, unless it is one of them. -/
def enqueue (id : Nat) : World :=
  if w.current = some id ∨ id ∈ w.ready then w else { w with ready := w.ready ++ [id] }

/-- The thread no longer waits and can go on after those that could before. -/
def makeReady (id : Nat) (t : Thread) : World :=
  let w := w.setThread id { t with wakeAt := none }
  { w with alarms := w.alarms.filter fun a => a.thread ≠ id ∨ a.isLimit }.enqueue id

/-- Sets the alarm of a limit, unless it is set. -/
def setLimit (id : Nat) (limit : Option Nat) : World :=
  match limit with
  | none => w
  | some time =>
    if w.alarms.any fun a => a.thread = id && a.isLimit then w
    else { w with alarms := w.alarms ++ [⟨id, time, true⟩] }

/-- The thread waits for so long unless something else happens. -/
def makeWait (id : Nat) (t : Thread) (millis : Nat) : World :=
  let alarm : Alarm := ⟨id, w.time + millis, false⟩
  let w := w.setThread id { t with wakeAt := some alarm.time }
  let w := { w with
    current := if w.current = some id then none else w.current
    alarms := w.alarms ++ [alarm] }
  w.setLimit id (t.run.bind Run.limit)

def leaveQueues (id : Nat) : World :=
  { w with
    atPool := w.atPool.filter (· ≠ id)
    atLocks := w.atLocks.filter (· ≠ id) }

end World

end Passbook.Rehearsal
