import Passbook.Rehearsal.World

/-!
# The schedule of a rehearsal

One thread is at work at a time, until it has to wait; then comes the one that has been able to go
on for longest. A step that is played by itself is at work as soon as it comes up and when an alarm
of its own goes off; what another thread hands it makes it go on only when no other thread can, and
what waits for threads to end takes note of it only then. Connections and row locks are handed over
in the order of arrival, at the moment they become free. When nobody can go on, the clock moves to
the next alarm; alarms of the same time go off in the order in which they were set.
-/
namespace Passbook.Rehearsal

open Outbox (Report)
open Store (Process Sign)

namespace World

/-- Takes down the signs of a step of a thread. -/
def note (w : World) (run : Run) (signs : List Sign) : World × Run :=
  signs.foldl
    (fun (w, run) sign =>
      match sign with
      | .logged event => (w.record event, run)
      | .told note => (w, { run with notes := note :: run.notes })
      | .locked _ => (w, run))
    (w, run)

def hasLocked (signs : List Sign) : Bool :=
  signs.any fun | .locked _ => true | _ => false

/-- Hands a waiting thread what it waits for, if that has become free. -/
def handOver (w : World) (id : Nat) : World :=
  match w.thread? id with
  | none => w
  | some t =>
    match t.run with
    | none => w
    | some run =>
      let step := match run.process.phase with
        | .connecting .. => run.process.enter w.store
        | _ => run.process.grant w.store
      match step.process.phase with
      | .connecting .. | .locking .. => w
      | _ =>
        let run := { run with process := step.process, locked := hasLocked step.signs }
        ({ w with store := step.store }.leaveQueues id).makeReady id { t with run := some run }

/-- Hands over everything that has become free. -/
def settle (w : World) : World :=
  let w := w.atLocks.foldl handOver w
  w.atPool.foldl handOver w

def endPass (w : World) (id : Nat) (l : Loop) (outcome : Except Error Value) : World :=
  let settings := ((w.dispatcher? l.dispatcher).map Dispatcher.settings).getD {}
  let (w, stats, idle) := match outcome with
    | .ok (.report r) =>
      (w, { l.stats with passes := l.stats.passes + 1, total := l.stats.total + r },
        r.processed == 0)
    | .ok _ => (w, l.stats, true)
    | .error e =>
      (w.record (.passFailed settings.name e),
        { l.stats with failedPasses := l.stats.failedPasses + 1 }, true)
  let l := { l with stats }
  if !idle || l.stopRequested then
    w.makeReady id ⟨.loop { l with phase := .between }, none, none⟩
  else if l.released then
    (w.record (.dispatcherStopped settings.name)).makeReady id
      ⟨.loop { l with phase := .ended false }, none, none⟩
  else w.makeWait id ⟨.loop { l with phase := .idling }, none, none⟩ settings.pollInterval

def endRun (w : World) (id : Nat) (t : Thread) (run : Run)
    (outcome : Option (Except Error Value)) : World :=
  let w := { w with alarms := w.alarms.filter (·.thread ≠ id) }
  match t.duty with
  | .jobs pending results =>
    let result := { outcome, notes := run.notes.reverse, tx := run.process.tx }
    w.makeReady id ⟨.jobs pending (results ++ [result]), none, none⟩
  | .loop l =>
    match outcome with
    | some outcome => w.endPass id l outcome
    | none => w.makeReady id ⟨.loop { l with phase := .ended true }, none, none⟩

/-- A job is abandoned where it stands. -/
def abandon (w : World) (id : Nat) (t : Thread) (run : Run) : World :=
  let (store, signs) := run.process.drop w.store
  let (w, run) := { w with store }.note run signs
  let run := { run with process.tx := none }
  ((w.leaveQueues id).endRun id t run none).settle

/-- A handler reacts to the message that it was given. -/
def react (w : World) (id : Nat) (t : Thread) (run : Run) (message : Outbox.Message) : World :=
  match run.dispatcher.bind w.dispatcher?, run.dispatcher with
  | some d, some n =>
    let (reaction, d) := d.react message
    let w := w.setDispatcher n d
    match reaction with
    | .told outcome =>
      w.makeReady id { t with run := some { run with process := run.process.hear outcome } }
    | .panicked => w.abandon id t run
  | _, _ => w.makeReady id { t with run := some { run with process := run.process.hear (.ok ()) } }

/-- The wait of a thread is over, and what it may have waited for has not come. -/
def expire (w : World) (id : Nat) (t : Thread) : World :=
  match t.run, t.duty with
  | some run, _ =>
    match run.process.phase with
    | .connecting .. | .locking .. =>
      let step := run.process.giveUp w.store
      ({ w with store := step.store }.leaveQueues id).makeReady id
        { t with run := some { run with process := step.process } }
    | .sleeping .. => w.makeReady id { t with run := some { run with process := run.process.wake } }
    | .delivering message _ => w.react id t run message
    | .ready _ | .querying .. | .trying .. | .finished _ => w.makeReady id t
  | none, .loop l => w.makeReady id { t with duty := .loop { l with phase := .between } }
  | none, .jobs .. => w.makeReady id t

/-- A thread whose alarm has gone off is at work again: its wait is over, or else its job has
reached the limit. -/
def meet (w : World) (id : Nat) (t : Thread) (wake : Nat) : World :=
  if wake ≤ w.time then w.expire id t
  else
    match t.run with
    | some run => w.abandon id t run
    | none => w.expire id t

/-- A thread has to wait for so long. A wait of no length is over at once, and a job that has
reached its limit is abandoned instead. -/
def wait (w : World) (id : Nat) (t : Thread) (run : Run) (millis : Nat) : World :=
  let t := { t with run := some run }
  if millis = 0 then w.expire id t
  else if run.limit.any (· ≤ w.time) then w.abandon id t run
  else w.makeWait id t millis

/-- A program goes on by one step. -/
def advance (w : World) (id : Nat) (t : Thread) (run : Run) : World :=
  let step := run.process.step w.store w.clock
  let run := { run with process := step.process }
  let (w, run) := { w with store := step.store }.note run step.signs
  let w := w.settle
  match step.process.phase with
  | .finished outcome => w.endRun id t run (some outcome)
  | .connecting .. => { w with atPool := w.atPool ++ [id] }.wait id t run w.acquireTimeout
  | .locking .. => { w with atLocks := w.atLocks ++ [id] }.wait id t run w.lockTimeout
  | .sleeping millis _ => w.wait id t run millis
  | .delivering message _ =>
    match run.dispatcher.bind w.dispatcher? with
    | none => w.wait id t run 0
    | some d =>
      { w with deliveries := ⟨d.name, message⟩ :: w.deliveries }.wait id t run (d.delay message)
  | .ready _ | .querying .. | .trying .. =>
    w.setThread id { t with run := some { run with locked := hasLocked step.signs } }

/-- One step of the job of a thread. After it was given a row lock, it pauses first. -/
def stepRun (w : World) (id : Nat) (t : Thread) (run : Run) : World :=
  if run.locked then w.wait id t { run with locked := false } w.pause
  else w.advance id t run

/-- A thread begins its next job, or has none left. -/
def nextJob (w : World) (id : Nat) (pending : List Job) (results : List Result) : World :=
  match pending with
  | [] => { w with current := none }
  | job :: pending =>
    let run : Run := {
      process := .start job.tx job.program
      limit := job.limit.map (w.time + ·)
      dispatcher := job.dispatcher }
    w.setThread id ⟨.jobs pending results, some run, none⟩

/-- A background loop goes on between two passes. -/
def stepLoop (w : World) (id : Nat) (l : Loop) : World :=
  let d := (w.dispatcher? l.dispatcher).getD { name := "" }
  let become (w : World) (phase : LoopPhase) (run : Option Run) : World :=
    w.setThread id ⟨.loop { l with phase }, run, none⟩
  match l.phase with
  | .starting => become (w.record (.dispatcherStarted d.settings.name)) .between none
  | .leaving => become (w.record (.dispatcherStopped d.settings.name)) (.ended false) none
  | .between =>
    if l.stopRequested then
      become (w.record (.dispatcherStopped d.settings.name)) (.ended false) none
    else
      let program : Program (Except Error Value) := return (← d.dispatch.pass).map .report
      become w .passing (some { process := .start none program, dispatcher := l.dispatcher })
  | .passing | .idling | .ended _ => { w with current := none }

/-- One step of the thread that is at work. -/
def stepThread (w : World) (id : Nat) : World :=
  match w.thread? id with
  | none => { w with current := none }
  | some t =>
    match t.wakeAt, t.run, t.duty with
    | some wake, _, _ => w.meet id t wake
    | none, some run, _ => w.stepRun id t run
    | none, none, .jobs pending results => w.nextJob id pending results
    | none, none, .loop l => w.stepLoop id l

/-- The thread whose turn it is. -/
def next? (w : World) : Option Nat :=
  w.ready.find? (some · ≠ w.player) <|> w.ready.head?

def nextAlarm? (w : World) : Option Nat := (w.alarms.map Alarm.time).min?

/-- Moves the clock to a time. The threads whose alarms go off can go on, and the player does so at
once; until each does, it may still be handed what it waits for. -/
def moveTo (w : World) (time : Nat) : World :=
  let (due, alarms) := w.alarms.partition (·.time ≤ time)
  let current := w.player.filter fun id => due.any (·.thread = id)
  due.foldl (fun w a => w.enqueue a.thread) { w with time, alarms, current }

/-- Goes on until something is the case, or nothing can happen any more. -/
def runUntil (done : World → Bool) : (fuel : Nat) → World → World
  | 0, w => w
  | fuel + 1, w =>
    if done w then w
    else
      match w.current with
      | some id => runUntil done fuel (w.stepThread id)
      | none =>
        match w.next? with
        | some id =>
          runUntil done fuel { w with current := some id, ready := w.ready.filter (· ≠ id) }
        | none =>
          match w.nextAlarm? with
          | some time => runUntil done fuel (w.moveTo time)
          | none => w

/-- A bound on the steps of one wait, far beyond what a rehearsal takes. -/
def patience : Nat := 100000000

/-- A thread has nothing more to do, or there is no such thread. -/
def isDone (w : World) (id : Nat) : Bool := (w.thread? id).all Thread.isDone

/-- No thread can go on. -/
def isQuiet (w : World) : Bool := w.current.isNone && w.ready.isEmpty

/-- Goes on until some threads are done and no other one can go on. Nothing happens if they are done
already. -/
def await (w : World) (ids : List Nat) : World :=
  if ids.all w.isDone then w
  else w.runUntil (fun w => ids.all w.isDone && w.isQuiet) patience

def resultsOf (w : World) (id : Nat) : List Result :=
  match w.thread? id with
  | some ⟨.jobs _ results, _, _⟩ => results
  | _ => []

/-- Has threads go through their jobs, all at the same time, and takes their results. -/
def runTasks (w : World) (tasks : List (List Job)) : World × List (List Result) :=
  let (w, ids) := tasks.foldl
    (fun (w, ids) jobs =>
      let (w, id) := w.addThread (.jobs jobs [])
      (w, ids ++ [id]))
    (w, ([] : List Nat))
  let w := if ids = [] then w else
    w.runUntil (fun w => ids.all w.isDone && w.isQuiet) patience
  (ids.foldl removeThread w, ids.map w.resultsOf)

/-- Does jobs one after another, at once, and takes their results. -/
def runJobs (w : World) (jobs : List Job) : World × List Result :=
  let (w, id) := w.addThread (.jobs jobs [])
  let w := { w with
    player := some id, current := some id, ready := w.ready.filter (· ≠ id) }.runUntil
      (·.isDone id) patience
  ({ w with player := none, current := none }.removeThread id, w.resultsOf id)

def runJob (w : World) (job : Job) : World × Result :=
  match w.runJobs [job] with
  | (w, [result]) => (w, result)
  | (w, _) => (w, { outcome := none })

end World

end Passbook.Rehearsal
