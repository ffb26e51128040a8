import Passbook.Rehearsal.Schedule
import Passbook.Rehearsal.Step

/-!
# Playing a rehearsal in memory

The steps of a rehearsal, played one after another against a store in memory.
-/
namespace Passbook.Rehearsal

namespace World

/-- The job that a call is. -/
def job (w : World) (c : TimedCall) : Job :=
  let dispatch? (name : String) := ((w.standing.lookup name).bind w.dispatcher?).map
    Dispatcher.dispatch
  { program := c.call.program dispatch?
    limit := c.limit
    dispatcher := match c.call with
      | .runOnce name | .drain name _ => w.standing.lookup name
      | _ => none }

/-- Closes a transaction that nobody has committed or rolled back. -/
def dropTransaction (w : World) (tx : TxId) : World :=
  ({ w with store := w.store.close tx }.record
    (.transactionDropped (w.store.locksOf tx).length)).settle

def forget (w : World) (name : String) : World :=
  { w with transactions := w.transactions.filter (·.1 ≠ name) }

/-- Opens a transaction under a name. Once it is open, an earlier one of that name is dropped. -/
def beginNamed (w : World) (name : String) : World × Reply :=
  let program : Program (Except Error Value) := return (← Program.begin).map fun _ => .nothing
  let (w, result) := w.runJob { program }
  match result.tx with
  | none => (w, .result result)
  | some tx =>
    let w := match w.transactions.lookup name with
      | some old => (w.dropTransaction old).forget name
      | none => w
    ({ w with transactions := w.transactions ++ [(name, tx)] }, .result { result with tx := none })

/-- Ends a transaction that was opened under a name. -/
def endNamed (w : World) (name : String) (ending : Program (Except Error Unit)) : World × Reply :=
  match w.transactions.lookup name with
  | none => (w, .refusal)
  | some tx =>
    let program : Program (Except Error Value) := return (← ending).map fun _ => .nothing
    let (w, result) := (w.forget name).runJob { program, tx := some tx }
    (w, .result result)

/-- Runs an operation on a transaction that was opened under a name. -/
def operate (w : World) (name : String) (operation : Operation) : World × Reply :=
  match w.transactions.lookup name with
  | none => (w, .refusal)
  | some tx =>
    let program : Program (Except Error Value) :=
      return (← operation.run.within).map .answer
    let (w, result) := w.runJob { program, tx := some tx }
    (w, .result result)

def failNext (w : World) : Moment → World
  | .begin => { w with store.faults.begin := true }
  | .commit => { w with store.faults.commit := true }
  | .rollback => { w with store.faults.rollback := true }

/-- Sets up a dispatcher; an earlier one of its name makes way. -/
def stand (w : World) (d : Dispatcher) : World :=
  { w with
    dispatchers := w.dispatchers ++ [(w.nextDispatcher, d)]
    standing := (d.name, w.nextDispatcher) :: w.standing.filter (·.1 ≠ d.name)
    nextDispatcher := w.nextDispatcher + 1 }

def modifyLoop (w : World) (id : Nat) (change : Loop → Loop) : World :=
  match w.thread? id with
  | some ⟨.loop l, run, wakeAt⟩ => w.setThread id ⟨.loop (change l), run, wakeAt⟩
  | _ => w

/-- Makes a background loop go on that waits for its next pass. -/
def rouse (w : World) (id : Nat) (phase : LoopPhase) : World :=
  match w.thread? id with
  | some ⟨.loop l, run, _⟩ =>
    if l.phase = .idling then w.makeReady id ⟨.loop { l with phase }, run, none⟩ else w
  | _ => w

/-- Lets go of the handle on a background loop. -/
def release (w : World) (id : Nat) : World :=
  (w.modifyLoop id ({ · with released := true })).rouse id .leaving

/-- Lets go of the handle under a name. -/
def dropHandle (w : World) (name : String) : World :=
  match w.handles.lookup name with
  | none => w
  | some id => { w.release id with handles := w.handles.filter (·.1 ≠ name) }

/-- Moves a dispatcher into the background; then an earlier handle of that name is let go. -/
def spawn (w : World) (name : String) : World × Reply :=
  match w.standing.lookup name with
  | none => (w, .refusal)
  | some dispatcher =>
    let (w, id) := w.addThread (.loop { dispatcher })
    let w := w.dropHandle name
    ({ w with
        standing := w.standing.filter (·.1 ≠ name)
        handles := (name, id) :: w.handles }, .ok)

def loop? (w : World) (name : String) : Option (Nat × Loop) := do
  let id ← w.handles.lookup name
  match w.thread? id with
  | some ⟨.loop l, _, _⟩ => some (id, l)
  | _ => none

/-- Has a background loop stop and waits until it has. -/
def shutdown (w : World) (name : String) : World × Reply :=
  match w.loop? name with
  | none => (w, .refusal)
  | some (id, _) =>
    let w := (w.modifyLoop id ({ · with stopRequested := true })).rouse id .between
    let w := w.await [id]
    let w := match w.thread? id with
      | some ⟨.loop { phase := .ended true, .. }, _, _⟩ => w.record .dispatcherBroke
      | _ => w
    ({ (w.removeThread id) with handles := w.handles.filter (·.1 ≠ name) }, .ok)

/-- The sum of the balances, and for each account the sum of its entries. -/
def totals (t : Store.Tables) : Reply :=
  .totals t.totalBalance (t.accounts.values.map fun a => (a.id, t.entrySum a.id))

def play (w : World) : Step → World × Reply
  | .call c =>
    let (w, result) := w.runJob (w.job c)
    (w, .result result)
  | .within name operation => w.operate name operation
  | .sequence calls =>
    let (w, results) := w.runJobs (calls.map w.job)
    (w, .results [results])
  | .concurrent tasks =>
    let (w, results) := w.runTasks (tasks.map fun calls => calls.map w.job)
    (w, .results results)
  | .begin name => w.beginNamed name
  | .commit name => w.endNamed name Program.commit
  | .rollback name => w.endNamed name Program.rollback
  | .drop name =>
    match w.transactions.lookup name with
    | some tx => ((w.dropTransaction tx).forget name, .ok)
    | none => (w, .refusal)
  | .failNext moment => (w.failNext moment, .ok)
  | .pauseAfterLock millis => ({ w with pause := millis }, .ok)
  | .idle => (w, .count w.store.idle)
  | .snapshot => (w, .tables w.store.committed)
  | .totals => (w, totals w.store.committed)
  | .dispatcher d => (w.stand d, .ok)
  | .handled => ({ w with deliveries := [] }, .deliveries w.deliveries.reverse)
  | .spawn name => w.spawn name
  | .stats name =>
    match w.loop? name with
    | some (_, l) => (w, .stats l.stats)
    | none => (w, .refusal)
  | .shutdown name => w.shutdown name
  | .dropHandle name =>
    match w.loop? name with
    | some _ => (w.dropHandle name, .ok)
    | none => (w, .refusal)
  | .refused => (w, .refusal)

def playAll (w : World) : List Step → World × List Reply
  | [] => (w, [])
  | step :: rest =>
    let (w, reply) := w.play step
    let (w, replies) := w.playAll rest
    (w, reply :: replies)

/-- Drops the transactions that are still open under a name, in the order of the names. -/
def dropAll (w : World) : World :=
  (w.transactions.mergeSort fun a b => a.1 ≤ b.1).foldl
    (fun w (name, tx) => (w.dropTransaction tx).forget name) w

end World

end Passbook.Rehearsal
