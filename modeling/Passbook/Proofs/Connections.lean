import Passbook.Proofs.Record
import Passbook.Settings
import Passbook.Work.Transaction

/-!
# Connections

Every connection is idle, that of one open transaction, or given to one task that still waits to
begin (`Unleaked`). However a transaction ends, it has none of its locks any more, and its
connection goes to the task that has waited longest, or is idle when none waits
(`System.Released`). So nothing is left behind once no transaction is open. This does not depend on
what the tasks run, nor on where their transactions fail.

A connection that was given to a task is not idle, although no transaction has it yet: there can be
no open transaction and no idle connection either (`handedOver_notIdle`).
-/

namespace Passbook.Store

variable {s s' : Store} {tx : TxId} {capacity : Nat} {mark : Mark} {a b : Stand α}

-- ---------------------------------------------------------------------------
-- Connections
-- ---------------------------------------------------------------------------

def openTransactions (s : Store) : List TxId := s.transactions.map Prod.fst

theorem mem_openTransactions : tx ∈ s.openTransactions ↔ s.isOpen tx := by
  rw [isOpen, transaction?, List.lookup_isSome_iff, openTransactions, List.mem_map]
  exact exists_congr fun row => and_congr_right fun _ => eq_comm.trans beq_iff_eq.symm

/-- Every connection is that of one open transaction or of none. -/
structure Pooled (s : Store) (capacity : Nat) : Prop where
  balance : s.pool.free + s.openTransactions.length = capacity
  distinct : s.openTransactions.Nodup

theorem apply_openTransactions (s : Store) (tx : TxId) (change : Change) :
    (s.apply tx change).openTransactions = s.openTransactions := List.map_map

theorem close_openTransactions (opened : s.isOpen tx) :
    (s.close tx).openTransactions = s.openTransactions.filter (· ≠ tx) := by
  rw [close, if_pos opened, openTransactions, openTransactions, List.filter_map]
  rfl

namespace Pooled

theorem start (count : Nat) : (ofConnections count).Pooled (max 1 count) where
  balance := Nat.max_comm count 1
  distinct := .nil

theorem keep (p : s.Pooled capacity) (free : s'.pool.free = s.pool.free)
    (same : s'.openTransactions = s.openTransactions) : s'.Pooled capacity :=
  ⟨free ▸ same ▸ p.balance, same ▸ p.distinct⟩

theorem openNext {pool : Pool} (p : s.Pooled capacity)
    (fresh : ∀ {tx}, s.isOpen tx → tx < s.nextTx) (gives : s.pool.Gives pool) :
    (s.repool pool).openNext.Pooled capacity where
  balance := by
    have before := p.balance
    have free := gives.free
    change pool.free + (s.openTransactions.length + 1) = capacity
    omega
  distinct := by
    refine List.nodup_cons.mpr ⟨fun again => ?_, p.distinct⟩
    exact Nat.lt_irrefl _ (fresh (mem_openTransactions.mp again))

theorem close (p : s.Pooled capacity) (tx : TxId) : (s.close tx).Pooled capacity := by
  by_cases opened : s.isOpen tx
  case neg =>
    rw [Store.close, if_neg opened]
    exact p
  have rest : (s.close tx).openTransactions = s.openTransactions.erase tx := by
    rw [close_openTransactions opened, p.distinct.erase_eq_filter]
    exact List.filter_congr fun other _ => by by_cases h : other = tx <;> simp [h]
  have there := mem_openTransactions.mpr opened
  constructor
  · have some := List.length_pos_of_mem there
    rw [rest, close_pool opened, Pool.giveBack_free, List.length_erase_of_mem there, ← p.balance]
    omega
  · rw [rest]
    exact p.distinct.erase tx

theorem moved (p : s.Pooled capacity) (fresh : ∀ {tx}, s.isOpen tx → tx < s.nextTx)
    (m : Moved s a mark s' b) : s'.Pooled capacity := by
  cases m with
  | did => exact p.keep rfl (apply_openTransactions ..)
  | opened gives => exact p.openNext fresh gives
  | refused _ _ without => exact p.keep without.free rfl
  | published => exact (p.close _).keep rfl rfl
  | broke => exact (p.close _).keep rfl rfl
  | rolledBack => exact (p.close _).keep rfl rfl
  | _ => exact p.keep rfl rfl

end Pooled

-- ---------------------------------------------------------------------------
-- Tickets
-- ---------------------------------------------------------------------------

namespace Process

variable {p : Process α}

/-- The ticket that a process waits with for a connection. -/
def ticket? (p : Process α) : Option Ticket :=
  match p.phase with
  | .connecting ticket _ => some ticket
  | _ => none

theorem advance_pool (s : Store) (tx : TxId) (now : Instant) (plan : Plan β) :
    (s.advance tx now plan).1.pool = s.pool := by
  induction plan generalizing s with
  | finish outcome => rfl
  | look next ih => exact ih _ s
  | draw kind next ih => exact ih _ _
  | lock key rest ih =>
    rw [advance]
    split
    · exact ih s
    · rfl
  | tryLock key next => rfl
  | stage change rest ih => exact ih _

theorem close_shift (s : Store) (tx : TxId) : s.pool.Shift none (s.close tx).pool none := by
  unfold Store.close
  split
  · exact .gaveBack
  · exact .stays

theorem resume_shift {q : Query} (s : Store) (tx : TxId) (now : Instant) (plan : Plan q.Row)
    (next : Except Error q.Row → Program α) :
    s.pool.Shift none (resume s tx now plan next).store.pool
      (resume s tx now plan next).process.ticket? := by
  have same := advance_pool s tx now plan
  unfold resume
  generalize s.advance tx now plan = result at same
  obtain ⟨s', outcome | ⟨key, rest⟩ | ⟨key, rest⟩⟩ := result
  · exact same ▸ .stays
  · dsimp only
    split <;> exact same ▸ .stays
  · exact same ▸ .stays

theorem begin_shift (s : Store) (now : Instant) (tx? : Option TxId)
    (next : Except Error Unit → Program α) :
    let progress := step s now ⟨tx?, .ready (.ask .begin next)⟩
    s.pool.Shift none progress.store.pool progress.process.ticket? := by
  simp only [step, Store.begin]
  by_cases fails : s.faults.begin
  · simp only [fails, if_true]
    exact .stays
  · cases taken : s.pool.take? with
    | none =>
      simp only [fails, connect, taken]
      exact .queued taken
    | some pool =>
      simp only [fails, connect, taken]
      exact .took taken

theorem commit_pool (s : Store) (tx : TxId) : (s.commit tx).1.pool = (s.close tx).pool := by
  unfold Store.commit
  split
  · rfl
  · split <;> rfl

theorem rollback_pool (s : Store) (tx : TxId) : (s.rollback tx).1.pool = (s.close tx).pool := by
  unfold Store.rollback
  split <;> rfl

/-- A transaction that ends gives its connection back, whatever the outcome is. -/
theorem finish_shift (s : Store) (tx? : Option TxId) {ending : TxId → Store × Except Error Unit}
    (closes : ∀ tx, (ending tx).1.pool = (s.close tx).pool) (next : Except Error Unit → Program α) :
    let progress := finish s tx? ending next
    s.pool.Shift none progress.store.pool progress.process.ticket? := by
  cases tx? with
  | none => exact .stays
  | some tx =>
    simp only [finish, closes]
    exact close_shift s tx

theorem step_shift (s : Store) (p : Process α) (now : Instant) :
    s.pool.Shift p.ticket? (p.step s now).store.pool (p.step s now).process.ticket? := by
  obtain ⟨tx?, phase⟩ := p
  cases phase with
  | ready program =>
    cases program with
    | done result => exact .stays
    | ask op next =>
      cases op with
      | begin => exact begin_shift s now tx? next
      | commit => exact finish_shift s tx? (commit_pool s) next
      | rollback => exact finish_shift s tx? (rollback_pool s) next
      | inside r => cases r <;> exact .stays
  | querying plan next =>
    cases tx? with
    | none => exact .stays
    | some tx => exact resume_shift s tx now plan next
  | trying key rest next =>
    cases tx? with
    | none => exact .stays
    | some tx =>
      simp only [step, tryLock]
      split <;> exact .stays
  | _ => exact .stays

theorem enter_shift (s : Store) (p : Process α) :
    s.pool.Shift p.ticket? (p.enter s).store.pool (p.enter s).process.ticket? := by
  obtain ⟨tx, phase⟩ := p
  cases phase with
  | connecting ticket next =>
    simp only [enter]
    split
    · next given => exact .collected given
    · exact .stays
  | _ => exact .stays

theorem make_shift (s : Store) (p : Process α) (move : Move) :
    s.pool.Shift p.ticket? (p.make s move).store.pool (p.make s move).process.ticket? := by
  cases move with
  | step now => exact step_shift s p now
  | enter => exact enter_shift s p
  | grant =>
    obtain ⟨tx | tx, phase⟩ := p <;> cases phase with
    | locking key rest next => ?_
    | _ => exact .stays
    · exact .stays
    · simp only [make, grant]
      split <;> exact .stays
  | wake =>
    obtain ⟨tx, phase⟩ := p
    cases phase <;> exact .stays
  | hear outcome =>
    obtain ⟨tx, phase⟩ := p
    cases phase <;> exact .stays
  | giveUp =>
    obtain ⟨tx, phase⟩ := p
    cases phase with
    | connecting ticket next =>
      simp only [make, giveUp]
      split
      · exact enter_shift s ⟨tx, .connecting ticket next⟩
      · exact .left
    | _ => exact .stays

theorem withdraw_shift (s : Store) (p : Process α) :
    s.pool.Shift p.ticket? (p.withdraw s).pool none := by
  obtain ⟨tx, phase⟩ := p
  cases phase with
  | connecting ticket next => exact .left
  | _ => exact .stays

end Process

/-- A move that ends a transaction gives its connection back. -/
theorem Moved.returned (m : Moved s a mark s' b) (opened : s.isOpen tx) (ended : ¬s'.isOpen tx) :
    s'.pool.free = s.pool.free + 1 := by
  cases m with
  | did =>
    refine absurd (mem_openTransactions.mp ?_) ended
    rw [apply_openTransactions]
    exact mem_openTransactions.mpr opened
  | opened =>
    refine absurd (mem_openTransactions.mp ?_) ended
    exact List.mem_cons_of_mem _ (mem_openTransactions.mpr opened)
  | published | broke | rolledBack =>
    obtain rfl := eq_of_closed opened ended
    exact close_pool opened ▸ Pool.giveBack_free s.pool
  | _ => exact absurd opened ended

namespace System

variable {Name : Type} [DecidableEq Name] {Result : Name → Type} {sys sys' : System Result}

/-- Every ticket is there once, and some task waits with it. -/
structure Ticketed (sys : System Result) : Prop where
  sound : sys.store.pool.Sound
  there : ∀ ticket ∈ sys.store.pool.tickets, ∃ name p, sys.tasks name = some p ∧
    p.ticket? = some ticket

namespace Ticketed

omit [DecidableEq Name] in
theorem start (connections : Nat) (programs : (name : Name) → Program (Result name)) :
    (start connections programs).Ticketed where
  sound := .start _
  there _ h := nomatch h

/-- Every ticket that is still there is waited with after a task has done something to the pool. -/
theorem shifted {name : Name} {p : Process (Result name)} {pool : Pool} (w : sys.Ticketed)
    (p' : Option (Process (Result name))) (task : sys.tasks name = some p)
    (shift : sys.store.pool.Shift p.ticket? pool (p'.bind (·.ticket?)))
    (ticket : Ticket) (there : ticket ∈ pool.tickets) :
    ∃ other q, Function.update sys.tasks name p' other = some q ∧ q.ticket? = some ticket := by
  rcases shift.mem_tickets w.sound there with own | ⟨before, notOwn⟩
  · obtain ⟨q, rfl, waits⟩ := Option.bind_eq_some_iff.mp own
    exact ⟨name, q, Function.update_self .., waits⟩
  · obtain ⟨other, q, hq, waits⟩ := w.there ticket before
    have apart : other ≠ name := by
      rintro rfl
      obtain rfl := Option.some.inj (task.symm.trans hq)
      exact notOwn waits
    exact ⟨other, q, (Function.update_of_ne apart ..).trans hq, waits⟩

theorem after (w : sys.Ticketed) (h : Happening Name) : (sys.after h).Ticketed := by
  cases h with
  | move name move =>
    cases task : sys.tasks name with
    | none =>
      simp only [System.after, task]
      exact w
    | some p =>
      rw [after_move move task]
      have shift := p.make_shift sys.store move
      exact ⟨shift.sound w.sound, w.shifted (some _) task shift⟩
  | drop name =>
    cases task : sys.tasks name with
    | none =>
      simp only [System.after, task]
      exact w
    | some p =>
      have shift := p.withdraw_shift sys.store
      have there := w.shifted none task shift
      simp only [System.after, task, Process.drop]
      cases p.tx with
      | none => exact ⟨shift.sound w.sound, there⟩
      | some tx =>
        have sound := shift.sound w.sound
        have closed := Process.close_shift (p.withdraw sys.store) tx
        refine ⟨closed.sound sound, fun ticket h => there ticket ?_⟩
        exact ((closed.mem_tickets sound h).resolve_left (Option.some_ne_none ticket).symm).1
  | arm faults => exact ⟨w.sound, w.there⟩

end Ticketed

theorem ticketed_run (connections : Nat) (programs : (name : Name) → Program (Result name))
    (happenings : List (Happening Name)) :
    ((start connections programs).run happenings).Ticketed := by
  have kept : ∀ sys : System Result, sys.Ticketed → (sys.run happenings).Ticketed := by
    induction happenings with
    | nil => exact fun _ w => w
    | cons h rest ih => exact fun sys w => ih (sys.after h) (w.after h)
  exact kept _ (.start connections programs)

-- ---------------------------------------------------------------------------
-- Ends
-- ---------------------------------------------------------------------------

theorem pooled_happened (t : sys.Tidy) (p : sys.store.Pooled capacity) (h : Happened sys sys') :
    sys'.store.Pooled capacity := by
  cases h with
  | moved _ m => exact p.moved t.fresh m
  | cancelled _ _ without =>
    have kept : (sys.store.repool _).Pooled capacity := p.keep without.free rfl
    exact kept.close _
  | left _ _ without => exact p.keep without.free rfl
  | armed => exact p.keep rfl rfl

theorem pooled_run (connections : Nat) (programs : (name : Name) → Program (Result name))
    (happenings : List (Happening Name)) :
    ((start connections programs).run happenings).store.Pooled (max 1 connections) :=
  run_induction (motive := fun sys => sys.store.Pooled (max 1 connections)) (.start connections)
    (fun _ _ t _ p h => pooled_happened t p h) happenings

theorem ended_run (t : sys.Tidy) (g : sys.Guarded) (old : tx < sys.store.nextTx)
    (ended : ¬sys.store.isOpen tx) (later : List (Happening Name)) :
    ¬(sys.run later).store.isOpen tx := by
  have none : sys.store.transaction? tx = none := Option.not_isSome_iff_eq_none.mp ended
  refine Option.not_isSome_iff_eq_none.mpr (run_induction_from
    (motive := fun sys => tx < sys.store.nextTx ∧ sys.store.transaction? tx = Option.none) t g
    ⟨old, none⟩ ?_ later).2
  exact fun _ _ t g before h => ended_happened t g h before.1 before.2

/-- What happens next to the task ends its transaction: a commit, a rollback, or the loss of the
task, wherever it stands. -/
inductive Ends {α : Type} (name : Name) (p : Process α) : Happening Name → Prop
  | commit {now : Instant} {next : Except Error Unit → Program α} :
      p.phase = .ready (.ask .commit next) → Ends name p (.move name (.step now))
  | rollback {now : Instant} {next : Except Error Unit → Program α} :
      p.phase = .ready (.ask .rollback next) → Ends name p (.move name (.step now))
  | drop : Ends name p (.drop name)

/-- Neither an armed failure nor anything else keeps a transaction from being closed. -/
theorem Ends.store {name : Name} {p : Process (Result name)} {ending : Happening Name}
    (task : sys.tasks name = some p) (htx : p.tx = some tx) (ends : Ends name p ending) :
    ∃ committed faults, (sys.after ending).store =
      { (p.withdraw sys.store).close tx with committed, faults } := by
  cases ends with
  | commit phase =>
    rw [after_move _ task]
    simp only [took, Process.make, Process.step, phase, htx, Process.finish, Store.commit,
      Process.withdraw]
    split
    · exact ⟨_, _, rfl⟩
    · split <;> exact ⟨_, _, rfl⟩
  | rollback phase =>
    rw [after_move _ task]
    simp only [took, Process.make, Process.step, phase, htx, Process.finish, Store.rollback,
      Process.withdraw]
    split <;> exact ⟨_, _, rfl⟩
  | drop =>
    simp only [after, task, Process.drop, htx]
    exact ⟨_, _, rfl⟩

theorem returned_happened (h : Happened sys sys') (opened : sys.store.isOpen tx)
    (ended : ¬sys'.store.isOpen tx) : sys'.store.pool.free = sys.store.pool.free + 1 := by
  cases h with
  | moved _ m => exact m.returned opened ended
  | @cancelled closed _ _ pool _ _ without =>
    have opened : (sys.store.repool pool).isOpen tx := opened
    obtain rfl := eq_of_closed opened ended
    rw [← without.free, close_pool opened]
    exact Pool.giveBack_free pool
  | left => exact absurd opened ended
  | armed => exact absurd opened ended

/-- The transaction has left nothing behind. -/
structure Released (sys : System Result) (tx : TxId) (ending : Happening Name) : Prop where
  /-- One connection more is idle or given to a task that waits. -/
  returned : (sys.after ending).store.pool.free = sys.store.pool.free + 1
  forever : ∀ later, ¬(sys.run (ending :: later)).store.isOpen tx ∧
    ∀ key, ¬(sys.run (ending :: later)).store.Holds tx key

theorem released_run (connections : Nat) (programs : (name : Name) → Program (Result name))
    (happenings : List (Happening Name)) (tx : TxId) (ending : Happening Name) :
    let sys := (start connections programs).run happenings
    sys.store.isOpen tx → ¬(sys.after ending).store.isOpen tx → sys.Released tx ending := by
  intro sys opened ended
  have t : sys.Tidy := tidy_run connections programs happenings
  have g : sys.Guarded := guarded_run connections programs happenings
  have happened := after_happened t.opened t.staged ending
  refine ⟨returned_happened happened opened ended, fun later => ?_⟩
  -- Numbers of transactions are not used twice, so what has ended stays so.
  have old := Nat.lt_of_lt_of_le (t.fresh opened) (nextTx_le happened)
  have gone : ¬(sys.run (ending :: later)).store.isOpen tx :=
    ended_run (t.happened happened) (g.happened t happened) old ended later
  have locked : (sys.run (ending :: later)).Locked := by
    rw [← run_append]
    exact locked_run ..
  exact ⟨gone, fun key held => gone (locked.store.holder_isOpen held)⟩

-- ---------------------------------------------------------------------------
-- Runs
-- ---------------------------------------------------------------------------

/-- Connections and locks belong to open transactions, or to tasks that are about to get one, and
to nothing else. -/
structure Unleaked (sys : System Result) (capacity : Nat) : Prop where
  balance : sys.store.idle + sys.store.openTransactions.length + sys.store.pool.handed.length =
    capacity
  /-- Every open transaction is counted, and counted once. -/
  counted : sys.store.openTransactions.Nodup ∧
    ∀ tx, tx ∈ sys.store.openTransactions ↔ sys.store.isOpen tx
  /-- Every connection that was given away is that of one task, which still waits to begin. -/
  handed : sys.store.pool.handed.Nodup ∧ ∀ ticket ∈ sys.store.pool.handed,
    ∃ name p, sys.tasks name = some p ∧ p.ticket? = some ticket
  /-- Nobody is left waiting while a connection is idle. -/
  queue : sys.store.idle ≠ 0 → sys.store.pool.queue = []
  owned : ∀ {key tx}, sys.store.holder? key = some tx → sys.store.isOpen tx
  ended : ∀ {tx}, ¬sys.store.isOpen tx → sys.store.locksOf tx = []
  quiet : (∀ tx, ¬sys.store.isOpen tx) →
    sys.store.idle + sys.store.pool.handed.length = capacity ∧
      ∀ key, sys.store.holder? key = none
  /-- When nobody waits to begin either, all connections are idle. -/
  still : (∀ tx, ¬sys.store.isOpen tx) → (∀ name p, sys.tasks name = some p → p.ticket? = none) →
    sys.store.idle = capacity

omit [DecidableEq Name] in
theorem Ticketed.unleaked (w : sys.Ticketed) (p : sys.store.Pooled capacity)
    (l : sys.store.Locked) : sys.Unleaked capacity := by
  have balance : sys.store.idle + sys.store.openTransactions.length +
      sys.store.pool.handed.length = capacity := by
    have before := p.balance
    rw [Pool.free] at before
    rw [Store.idle]
    omega
  have closed : (∀ tx, ¬sys.store.isOpen tx) →
      sys.store.idle + sys.store.pool.handed.length = capacity := fun closed => by
    have none : sys.store.openTransactions = [] :=
      List.eq_nil_iff_forall_not_mem.mpr fun tx there => closed tx (mem_openTransactions.mp there)
    simpa [none] using balance
  have handed : ∀ ticket ∈ sys.store.pool.handed,
      ∃ name p, sys.tasks name = some p ∧ p.ticket? = some ticket := fun ticket given =>
    w.there ticket (List.mem_append_right _ given)
  exact {
    balance
    counted := ⟨p.distinct, fun _ => mem_openTransactions⟩
    handed := ⟨(List.nodup_append.mp w.sound.distinct).2.1, handed⟩
    queue := w.sound.served
    owned := l.holder_isOpen
    ended := fun ended => List.eq_nil_iff_forall_not_mem.mpr fun _ held =>
      ended (l.holder_isOpen (l.mem_locksOf.mp held))
    quiet := fun none => ⟨closed none, fun key => Option.eq_none_iff_forall_ne_some.mpr
      fun tx held => none tx (l.holder_isOpen held)⟩
    still := fun none waits => by
      have given : sys.store.pool.handed = [] :=
        List.eq_nil_iff_forall_not_mem.mpr fun ticket given => by
          obtain ⟨name, p, task, mine⟩ := handed ticket given
          exact absurd (mine.symm.trans (waits name p task)) (Option.some_ne_none ticket)
      simpa [given] using closed none }

/-- Whatever happens, every connection is idle, that of an open transaction, or given to a task that
waits to begin, and open transactions alone hold locks. A transaction that a happening ends gives
all of them back and is never heard of again; commits and rollbacks end one even when they fail, and
so does the loss of its task. The connection goes to the task that has waited longest. -/
theorem unleaked_run (settings : LedgerSettings)
    (programs : (name : Name) → Program (Result name)) (happenings : List (Happening Name)) :
    let sys := (start settings.maxConnections programs).run happenings
    sys.Unleaked (max 1 settings.maxConnections) ∧
      (∀ tx ending, sys.store.isOpen tx → ¬(sys.after ending).store.isOpen tx →
        sys.Released tx ending) ∧
      ∀ name p tx ending, sys.tasks name = some p → p.tx = some tx → Ends name p ending →
        sys.store.isOpen tx ∧ sys.Released tx ending ∧
          (sys.after ending).store.pool = (p.withdraw sys.store).pool.giveBack := by
  intro sys
  have locked : sys.Locked := locked_run ..
  have released : ∀ tx ending, sys.store.isOpen tx → ¬(sys.after ending).store.isOpen tx →
      sys.Released tx ending := released_run settings.maxConnections programs happenings
  refine ⟨(ticketed_run ..).unleaked (pooled_run ..) locked.store, released, ?_⟩
  intro name p tx ending task htx ends
  have tidy : sys.Tidy := tidy_run ..
  have opened := tidy.opened ((txOf_eq task).trans htx)
  obtain ⟨committed, faults, closed⟩ := ends.store task htx
  obtain ⟨pool, -, withdrawn⟩ := withdraw_without (s := sys.store) p
  refine ⟨opened, released tx ending opened ?_, ?_⟩
  · rw [closed]
    exact not_isOpen_close (p.withdraw sys.store) tx
  · rw [closed]
    exact close_pool (by rw [withdrawn]; exact opened)

/-- An account is opened, and the commit is to fail. -/
def breaking (happenings : List (Happening Unit)) : System fun _ : Unit => Except Error Account :=
  (start 1 fun _ => Query.run (.createAccount ⟨"alice", 0, .usd⟩)).run happenings

/-- The commit that fails gives the connection and the lock of the new account back. -/
theorem unleaked_breaking :
    let before := steps () 4 ++ [.arm { commit := true }]
    let sys := breaking before
    let commit := Happening.move () (.step default)
    sys.store.idle = 0 ∧ sys.store.locks = [(.account ⟨1⟩, 0)] ∧ sys.Released 0 commit ∧
      (sys.after commit).store.idle = 1 ∧ (sys.after commit).store.locks = [] ∧
      (sys.after commit).store.committed.accounts.values = [] := by
  intro before sys commit
  have released : sys.Released 0 commit :=
    (unleaked_run { maxConnections := 1 } (fun _ => Query.run (.createAccount ⟨"alice", 0, .usd⟩))
      before).2.1 0 commit (by decide +kernel) (by decide +kernel)
  exact ⟨by decide +kernel, by decide +kernel, released, by decide +kernel, by decide +kernel,
    by decide +kernel⟩

/-- A task that has the only connection is dropped while another one waits for it. No transaction is
open then, and no connection is idle, until the other task takes up the one that it was given. -/
theorem handedOver_notIdle :
    let settings : LedgerSettings := { maxConnections := 1 }
    let sys := (start settings.maxConnections fun _ : Fin 2 => Query.run (.getAccount ⟨1⟩)).run
      [.move 0 (.step default), .move 1 (.step default), .drop 0]
    sys.store.idle + sys.store.openTransactions.length ≠ max 1 settings.maxConnections ∧
      sys.store.openTransactions = [] ∧ sys.store.idle ≠ max 1 settings.maxConnections ∧
      (sys.after (.move 1 .enter)).store.openTransactions = [1] := by
  decide +kernel

end System

end Passbook.Store
