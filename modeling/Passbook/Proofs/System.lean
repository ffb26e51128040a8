import Mathlib.Logic.Function.Basic
import Passbook.Proofs.Effects
import Passbook.Store.Process

/-!
# Systems

Any number of tasks run on one store. Each runs a program of its own; they take their steps in any
order, clocks show anything, waits end or are given up, failures are armed at any time, and a task
can be dropped wherever it stands. `System.run` plays any list of such happenings.

Beside the store and the tasks a system keeps a record of what has been done: the queries that have
succeeded in each transaction, the transactions in the order of their commits, and the numbers that
were drawn. No step looks at the record.
-/

namespace Passbook.Store

-- ---------------------------------------------------------------------------
-- Moves
-- ---------------------------------------------------------------------------

/-- A query that has succeeded, with its row and the clock that it saw. -/
structure Deed where
  query : Query
  row : query.Row
  now : Instant

/-- What a task can do next, or what can happen to it. -/
inductive Move
  | step (now : Instant)
  | enter
  | grant
  | wake
  | hear (outcome : Except String Unit)
  | giveUp

/-- What is recorded of a move. -/
inductive Mark
  | nothing
  | did (deed : Deed)
  | committed

namespace Process

variable {α : Type}

def make (s : Store) (p : Process α) : Move → Progress α
  | .step now => p.step s now
  | .enter => p.enter s
  | .grant => p.grant s
  | .wake => ⟨s, p.wake, []⟩
  | .hear outcome => ⟨s, p.hear outcome, []⟩
  | .giveUp => p.giveUp s

/-- What is recorded of a step: that its query succeeds, or that its commit does. -/
def stepMark (s : Store) (p : Process α) (now : Instant) : Mark :=
  match p.phase, p.tx with
  | @Phase.querying _ q plan _, some tx =>
    match (s.advance tx now plan).2 with
    | .finished (.ok row) => .did ⟨q, row, now⟩
    | _ => .nothing
  | .ready (.ask .commit _), some tx =>
    match (s.commit tx).2 with
    | .ok () => .committed
    | .error _ => .nothing
  | _, _ => .nothing

def mark (s : Store) (p : Process α) : Move → Mark
  | .step now => p.stepMark s now
  | _ => .nothing

end Process

-- ---------------------------------------------------------------------------
-- Systems
-- ---------------------------------------------------------------------------

/-- The numbers that have been drawn between two states of the sequences, at most one of a kind. -/
def Sequences.drawnUntil (before after : Sequences) : List Number :=
  [RowKind.account, .entry, .transfer, .outbox].filterMap fun kind =>
    if after.last kind = before.last kind then none else some ⟨kind, ⟨after.last kind⟩⟩

/-- A committed transaction: whose it was and what was done in it. -/
structure Commit (Name : Type) where
  author : Name
  tx : TxId
  deeds : List Deed

/-- A store, the tasks on it, and the record of what has been done. -/
structure System {Name : Type} (Result : Name → Type) where
  store : Store
  /-- The tasks that have not been dropped. -/
  tasks : (name : Name) → Option (Process (Result name))
  /-- The queries that have succeeded in a transaction, in order. -/
  journals : TxId → List Deed := fun _ => []
  /-- The committed transactions, in order. -/
  history : List (Commit Name) := []
  /-- The numbers that have been drawn and the transactions that drew them, in order. -/
  draws : List (TxId × Number) := []

/-- What can happen to a system. -/
inductive Happening (Name : Type)
  | move (name : Name) (move : Move)
  | drop (name : Name)
  | arm (faults : Faults)

namespace System

variable {Name : Type} [DecidableEq Name] {Result : Name → Type}

/-- No rows, and all tasks before their first step. -/
def start (connections : Nat) (programs : (name : Name) → Program (Result name)) :
    System Result where
  store := .ofConnections connections
  tasks name := some (.start none (programs name))

variable (sys : System Result)

/-- The system after a move of a task in the transaction `tx`. -/
def took (name : Name) (tx : Option TxId) (mark : Mark) (next : Store)
    (p : Process (Result name)) : System Result where
  store := next
  tasks := Function.update sys.tasks name (some p)
  journals :=
    match tx, mark with
    | some tx, .did deed => Function.update sys.journals tx (sys.journals tx ++ [deed])
    | _, _ => sys.journals
  history :=
    match tx, mark with
    | some tx, .committed => sys.history ++ [⟨name, tx, sys.journals tx⟩]
    | _, _ => sys.history
  draws :=
    match tx with
    | some tx => sys.draws ++ (sys.store.sequences.drawnUntil next.sequences).map (tx, ·)
    | none => sys.draws

def after : Happening Name → System Result
  | .move name move =>
    match sys.tasks name with
    | some p =>
      let next := p.make sys.store move
      sys.took name p.tx (p.mark sys.store move) next.store next.process
    | none => sys
  | .drop name =>
    match sys.tasks name with
    | some p =>
      { sys with
        store := (p.drop sys.store).1
        tasks := Function.update sys.tasks name none }
    | none => sys
  | .arm faults => { sys with store.faults := faults }

theorem after_move {sys : System Result} {name : Name} {p : Process (Result name)} (move : Move)
    (task : sys.tasks name = some p) : sys.after (.move name move) =
      sys.took name p.tx (p.mark sys.store move) (p.make sys.store move).store
        (p.make sys.store move).process := by
  simp only [after, task]

theorem task_after_move {sys : System Result} {name : Name} {p : Process (Result name)}
    (move : Move) (task : sys.tasks name = some p) :
    (sys.after (.move name move)).tasks name = some (p.make sys.store move).process := by
  rw [after_move move task]
  exact Function.update_self ..

def run (happenings : List (Happening Name)) : System Result := happenings.foldl after sys

@[simp] theorem run_nil : sys.run [] = sys := rfl

theorem run_append (first rest : List (Happening Name)) :
    sys.run (first ++ rest) = (sys.run first).run rest :=
  List.foldl_append

theorem run_snoc (happenings : List (Happening Name)) (h : Happening Name) :
    sys.run (happenings ++ [h]) = (sys.run happenings).after h := by
  simp [run]

end System

-- ---------------------------------------------------------------------------
-- How a query goes on
-- ---------------------------------------------------------------------------

namespace Process

variable {q : Query} {s : Store} {tx : TxId} {now : Instant} {key : RowKey}
  {next : Except Error q.Row → Program α}

theorem resume_look {rest : View → Plan q.Row} :
    resume s tx now (.look rest) next = resume s tx now (rest (s.view tx now)) next := by
  simp only [resume, advance]

theorem resume_draw {kind : RowKind} {rest : Id kind → Plan q.Row} :
    resume s tx now (.draw kind rest) next =
      resume (s.moveOn (s.sequences.draw kind).2) tx now (rest (s.sequences.draw kind).1)
        next := by
  simp only [resume, advance, moveOn]

/-- A lock that the transaction has already is not waited for. -/
theorem resume_lock_held {rest : Plan q.Row} (held : s.holder? key = some tx) :
    resume s tx now (.lock key rest) next = resume s tx now rest next := by
  simp only [resume, advance, if_pos held]

theorem resume_lock_free {rest : Plan q.Row} (free : s.holder? key = none) :
    resume s tx now (.lock key rest) next =
      ⟨s.acquire tx key, ⟨some tx, .querying rest next⟩, [.locked key]⟩ := by
  have unheld : s.holder? key ≠ some tx := free ▸ (Option.some_ne_none tx).symm
  simp only [resume, advance, if_neg unheld]
  simp only [free]

end Process

-- ---------------------------------------------------------------------------
-- Where a process stands
-- ---------------------------------------------------------------------------

/-- What is left of the plan of a query, once the lock that it waits for is there. -/
structure Pending where
  query : Query
  plan : Plan query.Row
  awaits : Option RowKey

/-- A process, however it is waiting: its transaction, what is left of its program, and what is
left of the query that is being carried out. -/
structure Stand (α : Type) where
  tx : Option TxId
  program : Program α
  pending : Option Pending

/-- What is left of the program, and of the query that is being carried out. -/
def Phase.stand : Phase α → Program α × Option Pending
  | .ready program => (program, none)
  | .connecting _ next => (.ask .begin next, none)
  | @Phase.querying _ q plan next => (.ask (.inside (.query q)) next, some ⟨q, plan, none⟩)
  | @Phase.locking _ q key rest next => (.ask (.inside (.query q)) next, some ⟨q, rest, some key⟩)
  | @Phase.trying _ q key rest next =>
    (.ask (.inside (.query q)) next, some ⟨q, .tryLock key rest, none⟩)
  | .sleeping millis next => (.ask (.inside (.sleep millis)) next, none)
  | .delivering message next => (.ask (.inside (.deliver message)) next, none)
  | .finished result => (.done result, none)

def Process.stand (p : Process α) : Stand α := ⟨p.tx, p.phase.stand.1, p.phase.stand.2⟩

/-- What a process that has come to its end returns. -/
def Process.result? (p : Process α) : Option α :=
  match p.phase with
  | .finished result => some result
  | _ => none

/-- The reply comes without anything being done. -/
def Idle : (r : Request) → r.Reply → Prop
  | .query _, reply => ∃ e, reply = .error e
  | _, _ => True

/-- The query that is being carried out changes rows last of all. -/
def Stand.StagesLast (a : Stand α) : Prop := ∀ pending ∈ a.pending, pending.plan.StagesLast

/-- All that a move can do to the store and the process, as long as the transaction is open. -/
inductive Moved (s : Store) : Stand α → Mark → Store → Stand α → Prop
  | stays : Moved s a .nothing s a
  | answered {r : Request} {reply : r.Reply} {next : r.Reply → Program α} : Idle r reply →
      Moved s ⟨tx, .ask (.inside r) next, pending⟩ .nothing s ⟨tx, next reply, none⟩
  | asked {q : Query} {next : Except Error q.Row → Program α} :
      Moved s ⟨tx, .ask (.inside (.query q)) next, none⟩ .nothing
        s ⟨tx, .ask (.inside (.query q)) next, some ⟨q, q.plan, none⟩⟩
  | blocked {q : Query} {next : Except Error q.Row → Program α} {plan rest : Plan q.Row} :
      plan.Walk (s.view tx now) (s.Holds tx) s.sequences seqs (.lock key rest) →
      ¬s.Holds tx key →
      Moved s ⟨some tx, .ask (.inside (.query q)) next, some ⟨q, plan, none⟩⟩ .nothing
        (s.moveOn seqs) ⟨some tx, .ask (.inside (.query q)) next, some ⟨q, rest, some key⟩⟩
  | locked {q : Query} {next : Except Error q.Row → Program α} {plan rest : Plan q.Row} :
      plan.Walk (s.view tx now) (s.Holds tx) s.sequences seqs (.lock key rest) →
      s.holder? key = none →
      Moved s ⟨some tx, .ask (.inside (.query q)) next, some ⟨q, plan, none⟩⟩ .nothing
        ((s.moveOn seqs).acquire tx key)
        ⟨some tx, .ask (.inside (.query q)) next, some ⟨q, rest, none⟩⟩
  | granted {q : Query} {next : Except Error q.Row → Program α} {rest : Plan q.Row} :
      s.holder? key = none →
      Moved s ⟨some tx, .ask (.inside (.query q)) next, some ⟨q, rest, some key⟩⟩ .nothing
        (s.acquire tx key) ⟨some tx, .ask (.inside (.query q)) next, some ⟨q, rest, none⟩⟩
  | reached {q : Query} {next : Except Error q.Row → Program α} {plan : Plan q.Row}
      {rest : Bool → Plan q.Row} :
      plan.Walk (s.view tx now) (s.Holds tx) s.sequences seqs (.tryLock key rest) →
      Moved s ⟨some tx, .ask (.inside (.query q)) next, some ⟨q, plan, none⟩⟩ .nothing
        (s.moveOn seqs) ⟨some tx, .ask (.inside (.query q)) next, some ⟨q, .tryLock key rest, none⟩⟩
  | won {q : Query} {next : Except Error q.Row → Program α} {rest : Bool → Plan q.Row} :
      s.holder? key = none →
      Moved s ⟨some tx, .ask (.inside (.query q)) next, some ⟨q, .tryLock key rest, none⟩⟩ .nothing
        (s.acquire tx key) ⟨some tx, .ask (.inside (.query q)) next, some ⟨q, rest true, none⟩⟩
  | tried {q : Query} {next : Except Error q.Row → Program α} {rest : Bool → Plan q.Row} :
      s.holder? key = some holder →
      Moved s ⟨some tx, .ask (.inside (.query q)) next, some ⟨q, .tryLock key rest, none⟩⟩ .nothing
        s ⟨some tx, .ask (.inside (.query q)) next, some ⟨q, rest (holder = tx), none⟩⟩
  | failed {q : Query} {next : Except Error q.Row → Program α} {plan : Plan q.Row} :
      plan.Walk (s.view tx now) (s.Holds tx) s.sequences seqs (.finish (.error e)) →
      Moved s ⟨some tx, .ask (.inside (.query q)) next, some ⟨q, plan, none⟩⟩ .nothing
        (s.moveOn seqs) ⟨some tx, next (.error e), none⟩
  | did {q : Query} {next : Except Error q.Row → Program α} {plan rest : Plan q.Row} {row : q.Row} :
      plan.Walk (s.view tx now) (s.Holds tx) s.sequences seqs rest → rest.Ends row change →
      Moved s ⟨some tx, .ask (.inside (.query q)) next, some ⟨q, plan, none⟩⟩ (.did ⟨q, row, now⟩)
        ((s.moveOn seqs).apply tx change) ⟨some tx, next (.ok row), none⟩
  | queued : Moved s ⟨tx, .ask .begin next, none⟩ .nothing
      (s.repool s.pool.wait) ⟨tx, .ask .begin next, none⟩
  | opened {pool : Pool} : s.pool.Gives pool →
      Moved s ⟨tx, .ask .begin next, none⟩ .nothing (s.repool pool).openNext
        ⟨some s.nextTx, next (.ok ()), none⟩
  | refused {pool : Pool} (faults : Faults) (e : Error) : s.pool.Without pool →
      Moved s ⟨tx, .ask .begin next, none⟩ .nothing { s.repool pool with faults }
        ⟨tx, next (.error e), none⟩
  | published : s.transaction? tx = some own →
      Moved s ⟨some tx, .ask .commit next, none⟩ .committed
        { s.close tx with committed := s.committed.publish own.written own.deleted }
        ⟨none, next (.ok ()), none⟩
  | broke (faults : Faults) :
      Moved s ⟨some tx, .ask .commit next, none⟩ .nothing
        { s.close tx with faults } ⟨none, next (.error (connectionReset "commit")), none⟩
  | rolledBack (faults : Faults) (reply : Except Error Unit) :
      Moved s ⟨some tx, .ask .rollback next, none⟩ .nothing
        { s.close tx with faults } ⟨none, next reply, none⟩
  | strayedCommit : Moved s ⟨none, .ask .commit next, none⟩ .nothing
      s ⟨none, next (.error Process.noTransaction), none⟩
  | strayedRollback : Moved s ⟨none, .ask .rollback next, none⟩ .nothing
      s ⟨none, next (.error Process.noTransaction), none⟩

namespace Process

variable {s : Store} {tx : TxId} {p : Process α}

theorem resume_moved {q : Query} {plan : Plan q.Row} {next : Except Error q.Row → Program α}
    {progress : Progress α} {mark : Mark} (staged : plan.StagesLast)
    (hp : resume s tx now plan next = progress)
    (hm : stepMark s ⟨some tx, .querying plan next⟩ now = mark) :
    Moved s ⟨some tx, .ask (.inside (.query q)) next, some ⟨q, plan, none⟩⟩ mark
      progress.store progress.process.stand := by
  have h := advance_spec s tx now staged
  unfold resume at hp
  unfold stepMark at hm
  dsimp only at hm
  revert hp hm h
  generalize s.advance tx now plan = result
  rintro hp hm h
  cases h with
  | failed w =>
    subst hp hm
    exact .failed w
  | succeeded w ends =>
    subst hp hm
    exact .did w ends
  | @waits _ key rest w unheld =>
    dsimp only at hp hm
    cases hk : (s.moveOn _).holder? key with
    | none =>
      rw [hk] at hp
      subst hp hm
      exact .locked w hk
    | some holder =>
      rw [hk] at hp
      subst hp hm
      exact .blocked w unheld
  | tries w =>
    subst hp hm
    exact .reached w

theorem tryLock_moved {q : Query} {rest : Bool → Plan q.Row}
    {next : Except Error q.Row → Program α} :
    Moved s ⟨some tx, .ask (.inside (.query q)) next, some ⟨q, .tryLock key rest, none⟩⟩ .nothing
      (tryLock s tx key rest next).store (tryLock s tx key rest next).process.stand := by
  unfold tryLock
  cases hk : s.holder? key with
  | none => exact .won hk
  | some holder => exact .tried hk

theorem begin_moved {next : Except Error Unit → Program α} :
    Moved s ⟨tx?, .ask .begin next, none⟩ (stepMark s ⟨tx?, .ready (.ask .begin next)⟩ now)
      (step s now ⟨tx?, .ready (.ask .begin next)⟩).store
      (step s now ⟨tx?, .ready (.ask .begin next)⟩).process.stand := by
  unfold step Store.begin
  dsimp only
  by_cases hf : s.faults.begin
  · simp only [hf, if_true]
    exact .refused _ _ .same
  · simp only [hf]
    cases hi : s.pool.take? with
    | none =>
      simp only [connect, hi]
      exact .queued
    | some pool =>
      simp only [connect, hi]
      exact .opened (.idle hi)

theorem enter_moved {ticket : Ticket} {next : Except Error Unit → Program α} :
    Moved s ⟨tx?, .ask .begin next, none⟩ .nothing
      (enter s ⟨tx?, .connecting ticket next⟩).store
      (enter s ⟨tx?, .connecting ticket next⟩).process.stand := by
  unfold enter
  dsimp only
  split
  · next given => exact .opened (.handed given)
  · exact .stays

theorem commit_moved {next : Except Error Unit → Program α}
    (opened : ∀ tx, tx? = some tx → s.isOpen tx) :
    Moved s ⟨tx?, .ask .commit next, none⟩ (stepMark s ⟨tx?, .ready (.ask .commit next)⟩ now)
      (step s now ⟨tx?, .ready (.ask .commit next)⟩).store
      (step s now ⟨tx?, .ready (.ask .commit next)⟩).process.stand := by
  cases tx? with
  | none => exact .strayedCommit
  | some tx =>
    obtain ⟨own, hown⟩ := Option.isSome_iff_exists.mp (opened tx rfl)
    by_cases hf : s.faults.commit
    · simp only [step, stepMark, finish, Store.commit, hf, if_true]
      exact .broke _
    · simp only [step, stepMark, finish, Store.commit, hf, hown]
      exact .published hown

theorem rollback_moved {next : Except Error Unit → Program α} :
    Moved s ⟨tx?, .ask .rollback next, none⟩ (stepMark s ⟨tx?, .ready (.ask .rollback next)⟩ now)
      (step s now ⟨tx?, .ready (.ask .rollback next)⟩).store
      (step s now ⟨tx?, .ready (.ask .rollback next)⟩).process.stand := by
  cases tx? with
  | none => exact .strayedRollback
  | some tx =>
    by_cases hf : s.faults.rollback
    · simp only [step, stepMark, finish, Store.rollback, hf, if_true]
      exact .rolledBack _ _
    · simp only [step, stepMark, finish, Store.rollback, hf]
      exact .rolledBack (s.close tx).faults (.ok ())

theorem step_moved (p : Process α) (now : Instant) (opened : ∀ tx, p.tx = some tx → s.isOpen tx)
    (staged : p.stand.StagesLast) :
    Moved s p.stand (p.stepMark s now) (p.step s now).store (p.step s now).process.stand := by
  obtain ⟨tx, phase⟩ := p
  cases phase with
  | ready program =>
    cases program with
    | done result => exact .stays
    | ask op next =>
      cases op with
      | begin => exact begin_moved
      | commit => exact commit_moved opened
      | rollback => exact rollback_moved
      | inside r =>
        cases r with
        | query q => exact .asked
        | deliver message => exact .stays
        | sleep millis => exact .stays
        | _ => exact .answered trivial
  | querying plan next =>
    cases tx with
    | some tx => exact resume_moved (staged _ rfl) rfl rfl
    | none => exact .answered ⟨_, rfl⟩
  | trying key rest next =>
    cases tx with
    | some tx => exact tryLock_moved
    | none => exact .answered ⟨_, rfl⟩
  | _ => exact .stays

theorem make_moved (p : Process α) (move : Move) (opened : ∀ tx, p.tx = some tx → s.isOpen tx)
    (staged : p.stand.StagesLast) :
    Moved s p.stand (p.mark s move) (p.make s move).store (p.make s move).process.stand := by
  cases move with
  | step now => exact step_moved p now opened staged
  | enter =>
    obtain ⟨tx, phase⟩ := p
    cases phase with
    | connecting ticket next => exact enter_moved
    | _ => exact .stays
  | grant =>
    obtain ⟨tx | tx, phase⟩ := p <;> cases phase with
    | locking key rest next => ?_
    | _ => exact .stays
    · exact .stays
    · cases hk : s.holder? key with
      | none =>
        simp only [make, grant, hk]
        exact .granted hk
      | some holder =>
        simp only [make, grant, hk]
        exact .stays
  | wake =>
    obtain ⟨tx, phase⟩ := p
    cases phase with
    | sleeping millis next => exact .answered trivial
    | _ => exact .stays
  | hear outcome =>
    obtain ⟨tx, phase⟩ := p
    cases phase with
    | delivering message next => exact .answered trivial
    | _ => exact .stays
  | giveUp =>
    obtain ⟨tx, phase⟩ := p
    cases phase with
    | connecting ticket next =>
      simp only [make, giveUp]
      split
      · exact enter_moved
      · exact .refused s.faults _ (.left ticket)
    | locking key rest next => exact .answered ⟨_, rfl⟩
    | _ => exact .stays

end Process

-- ---------------------------------------------------------------------------
-- What can happen
-- ---------------------------------------------------------------------------

namespace System

variable {Name : Type} [DecidableEq Name] {Result : Name → Type} {sys : System Result}

def txOf (sys : System Result) (name : Name) : Option TxId := (sys.tasks name).bind (·.tx)

def TasksOpen (sys : System Result) : Prop :=
  ∀ {name tx}, sys.txOf name = some tx → sys.store.isOpen tx

def TasksStageLast (sys : System Result) : Prop :=
  ∀ name p, sys.tasks name = some p → p.stand.StagesLast

omit [DecidableEq Name] in
theorem txOf_eq {name : Name} {p : Process (Result name)} (task : sys.tasks name = some p) :
    sys.txOf name = p.tx := by
  rw [txOf, task, Option.bind_some]

theorem txOf_took (sys : System Result) (name : Name) (p : Process (Result name)) (other : Name) :
    (sys.took name tx mark next p).txOf other = if other = name then p.tx else sys.txOf other := by
  by_cases h : other = name
  · subst h
    simp [txOf, took]
  · simp [txOf, took, h]

theorem forall_took {sys : System Result} {name : Name} {p : Process (Result name)}
    {holds : (other : Name) → Process (Result other) → Prop} (here : holds name p)
    (there : ∀ other q, other ≠ name → sys.tasks other = some q → holds other q) :
    ∀ other q, (sys.took name tx mark next p).tasks other = some q → holds other q := by
  intro other q hq
  by_cases h : other = name
  · subst h
    obtain rfl : p = q := by simpa [took] using hq
    exact here
  · exact there other q h (by simpa [took, h] using hq)

theorem task_of_dropped {tasks : (name : Name) → Option (Process (Result name))}
    {name other : Name} {q : Process (Result other)}
    (h : Function.update tasks name none other = some q) : other ≠ name ∧ tasks other = some q := by
  by_cases ho : other = name
  · subst ho
    simp at h
  · exact ⟨ho, by simpa [ho] using h⟩

/-- All that can happen to a system. -/
inductive Happened (sys : System Result) : System Result → Prop
  | moved {name : Name} {p p' : Process (Result name)} : sys.tasks name = some p →
      Moved sys.store p.stand mark next p'.stand → Happened sys (sys.took name p.tx mark next p')
  | cancelled {name : Name} {p : Process (Result name)} {pool : Pool} : sys.tasks name = some p →
      p.tx = some tx → sys.store.pool.Without pool →
      Happened sys
        { sys with
          store := (sys.store.repool pool).close tx
          tasks := Function.update sys.tasks name none }
  | left {name : Name} {p : Process (Result name)} {pool : Pool} :
      sys.tasks name = some p → p.tx = none →
      sys.store.pool.Without pool →
      Happened sys
        { sys with
          store := sys.store.repool pool
          tasks := Function.update sys.tasks name none }
  | armed (faults : Faults) : Happened sys { sys with store.faults := faults }

omit [DecidableEq Name] in
theorem withdraw_without {s : Store} (p : Process α) :
    ∃ pool, s.pool.Without pool ∧ p.withdraw s = s.repool pool := by
  unfold Process.withdraw
  split
  · exact ⟨_, .left _, rfl⟩
  · exact ⟨_, .same, rfl⟩

theorem after_happened (opened : sys.TasksOpen) (staged : sys.TasksStageLast) (h : Happening Name) :
    Happened sys (sys.after h) := by
  cases h with
  | move name move =>
    simp only [after]
    split
    · next p task =>
      exact .moved task
        (p.make_moved move (fun tx htx => opened ((txOf_eq task).trans htx)) (staged _ _ task))
    · exact .armed sys.store.faults
  | drop name =>
    simp only [after]
    split
    · next p task =>
      obtain ⟨pool, without, same⟩ := withdraw_without (s := sys.store) p
      cases htx : p.tx with
      | some tx =>
        simp only [Process.drop, htx, same]
        exact .cancelled task htx without
      | none =>
        simp only [Process.drop, htx, same]
        exact .left task htx without
    · exact .armed sys.store.faults
  | arm faults => exact .armed faults

end System

end Passbook.Store
