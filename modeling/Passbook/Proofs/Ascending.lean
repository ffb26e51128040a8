import Passbook.Proofs.Locks
import Passbook.Proofs.Record
import Passbook.Work.Workflow

/-!
# Locks in order

A program takes its locks in order when each lock that it asks for comes after all that it holds by
then (`Program.Ascends`, for any order `before`). What the program text says so holds of every task
in every run, with one order for all of them (`Ascending`) or with one for each (`AscendingBy`): a
task that waits for a lock holds only locks that come before it (`Ascending.awaited`).
-/

namespace Passbook

open Store

-- ---------------------------------------------------------------------------
-- Plans and programs
-- ---------------------------------------------------------------------------

variable {before : RowKey → RowKey → Prop} {α β : Type}

/-- With no locks but `held`, the plan waits for its locks in order. A lock that it only tries for
can come at any time. Once the plan succeeds, `next` is so of the locks that may be held by then and
of its row. -/
def Store.Plan.Ascends (before : RowKey → RowKey → Prop) (next : (RowKey → Prop) → α → Prop) :
    (RowKey → Prop) → Plan α → Prop
  | _, .finish (.error _) => True
  | held, .finish (.ok row) => next held row
  | held, .look rest => ∀ v, (rest v).Ascends before next held
  | held, .draw _ rest => ∀ id, (rest id).Ascends before next held
  | held, .lock key rest =>
    (∀ k, held k → k = key ∨ before k key) ∧ rest.Ascends before next fun k => k = key ∨ held k
  | held, .tryLock key rest =>
    ((rest true).Ascends before next fun k => k = key ∨ held k) ∧
      (rest false).Ascends before next held
  | held, .stage _ rest => rest.Ascends before next held

/-- With no locks but `held`, the operation asks for its locks in order, and `next` is so of the
locks that may be held afterwards and of the reply. After a query that fails, anything may be held
of what the query locks. -/
def Action.Ascends (before : RowKey → RowKey → Prop) (held : RowKey → Prop) :
    (op : Action) → ((RowKey → Prop) → op.Reply → Prop) → Prop
  | .begin, next => (∀ e, next held (.error e)) ∧ next (fun _ => False) (.ok ())
  | .commit, next | .rollback, next => ∀ reply, next (fun _ => False) reply
  | .inside (.query q), next =>
    (∀ held e, next held (.error e)) ∧
      q.plan.Ascends before (fun held row => next held (.ok row)) held
  | .inside _, next => ∀ reply, next held reply

/-- With no locks but `held`, the program asks for its locks in order. Once it is done, `post` is so
of the locks that may be held by then and of its result. -/
def Program.Ascends (before : RowKey → RowKey → Prop) (post : (RowKey → Prop) → α → Prop) :
    (RowKey → Prop) → Program α → Prop
  | held, .done a => post held a
  | held, .ask op next =>
    Action.Ascends before held op fun held reply => Program.Ascends before post held (next reply)

-- ---------------------------------------------------------------------------
-- The laws of programs in order
-- ---------------------------------------------------------------------------

namespace Store.Plan.Ascends

variable {next next' : (RowKey → Prop) → α → Prop} {held : RowKey → Prop} {plan rest : Plan α}

theorem mono (h : plan.Ascends before next held) (sub : ∀ held a, next held a → next' held a) :
    plan.Ascends before next' held := by
  induction plan generalizing held with
  | finish result =>
    cases result with
    | error e => trivial
    | ok row => exact sub _ _ h
  | look rest ih => exact fun v => ih v (h v)
  | draw kind rest ih => exact fun id => ih id (h id)
  | lock key rest ih => exact ⟨h.1, ih h.2⟩
  | tryLock key rest ih => exact ⟨ih true h.1, ih false h.2⟩
  | stage change rest ih => exact ih h

/-- Locks that are passed over, because they are held already, count as held. -/
theorem walk {v : View} {holds : RowKey → Prop} (h : plan.Ascends before next held)
    (w : plan.Walk v holds seqs seqs' rest) :
    ∃ held', (∀ k, held k → held' k) ∧ rest.Ascends before next held' := by
  induction w generalizing held with
  | stay => exact ⟨held, fun _ hk => hk, h⟩
  | look _ ih => exact ih (h v)
  | draw _ ih => exact ih (h _)
  | lock _ _ ih =>
    obtain ⟨held', sub, left⟩ := ih h.2
    exact ⟨held', fun k hk => sub k (.inr hk), left⟩

end Store.Plan.Ascends

theorem Store.Plan.Ends.ascends {next : (RowKey → Prop) → α → Prop} {rest : Plan α}
    (e : rest.Ends row change) (h : rest.Ascends before next held) : next held row := by
  cases e with
  | read => exact h
  | wrote => exact h

namespace Store.Plan

variable {next : (RowKey → Prop) → α → Prop} {held : RowKey → Prop}

theorem check_ascends {passed : Except Error Unit} {plan : Plan α}
    (h : plan.Ascends before next held) : (check passed plan).Ascends before next held := by
  cases passed with
  | ok _ => exact h
  | error e => trivial

theorem write_ascends {answer : View → Except Error α} {made : α → Change}
    (h : ∀ row, next held row) : (write made answer).Ascends before next held := by
  intro v
  dsimp only
  cases answer v with
  | error e => trivial
  | ok row => exact h row

theorem read_ascends {answer : View → Except Error α} (h : ∀ row, next held row) :
    (read answer).Ascends before next held := by
  intro v
  dsimp only
  cases answer v with
  | error e => trivial
  | ok row => exact h row

theorem insert_ascends {allowed : View → Except Error Unit} {made : α → Change}
    {new : Id kind → Instant → α} (h : ∀ row, next held row) :
    (insert kind allowed made new).Ascends before next held :=
  fun _ => check_ascends fun _ => write_ascends h

end Store.Plan

theorem Action.Ascends.mono {held : RowKey → Prop} {op : Action}
    {next next' : (RowKey → Prop) → op.Reply → Prop} (h : op.Ascends before held next)
    (sub : ∀ held reply, next held reply → next' held reply) : op.Ascends before held next' := by
  cases op with
  | begin => exact ⟨fun e => sub _ _ (h.1 e), sub _ _ h.2⟩
  | commit => exact fun reply => sub _ _ (h reply)
  | rollback => exact fun reply => sub _ _ (h reply)
  | inside r =>
    cases r with
    | query q => exact ⟨fun held e => sub _ _ (h.1 held e), h.2.mono fun _ _ => sub _ _⟩
    | _ => exact fun reply => sub _ _ (h reply)

namespace Program.Ascends

variable {post : (RowKey → Prop) → α → Prop} {post' : (RowKey → Prop) → β → Prop}
  {held : RowKey → Prop}

theorem andThen {d : Program α} {f : α → Program β} (h : d.Ascends before post held)
    (rest : ∀ held a, post held a → (f a).Ascends before post' held) :
    Ascends before post' held (d.andThen f) := by
  induction d generalizing held with
  | done a => exact rest held a h
  | ask op next ih => exact Action.Ascends.mono h fun _ reply => ih reply

/-- Work that starts with a query takes the locks of the query, and then those that its row leads
to. -/
theorem query {q : Query} {f : q.Row → Work α} {post : (RowKey → Prop) → Except Error α → Prop}
    (failed : ∀ held e, post held (.error e))
    (plan : q.plan.Ascends before (fun held row => (f row).within.Ascends before post held) held) :
    (Work.query q >>= f).within.Ascends before post held :=
  ⟨failed, plan⟩

end Program.Ascends

namespace Work

theorem settle_ascends {a : α} {held : RowKey → Prop} :
    (settle a).Ascends before (fun _ _ => True) held := by
  intro reply
  cases reply with
  | ok _ => exact fun _ => trivial
  | error e => trivial

theorem undo_ascends {e : Error} {held : RowKey → Prop} :
    (undo e : Program (Except Error α)).Ascends before (fun _ _ => True) held := by
  intro reply
  cases reply with
  | ok _ => exact fun _ => trivial
  | error r => exact fun _ => trivial

/-- A transaction starts without locks and ends without them. -/
theorem runInTransaction_ascends {work : Work α} {held : RowKey → Prop}
    (h : work.within.Ascends before (fun _ _ => True) fun _ => False) :
    (runInTransaction work).Ascends before (fun _ _ => True) held := by
  have once : (attemptOnce work).Ascends before (fun _ _ => True) held := by
    refine ⟨fun e => trivial, ?_⟩
    change Program.Ascends before _ _ (work.within.andThen _)
    refine h.andThen fun held outcome _ => ?_
    cases outcome with
    | ok a => exact settle_ascends.andThen fun _ _ _ => trivial
    | error e => exact undo_ascends.andThen fun _ _ _ => trivial
  have logged : (attemptLogged work).Ascends before (fun _ _ => True) held := by
    refine once.andThen fun held attempt _ => ?_
    obtain ⟨started, outcome⟩ := attempt
    cases outcome with
    | ok a => trivial
    | error e => exact fun _ => trivial
  exact logged.andThen fun _ _ _ => trivial

theorem runWorkflow_ascends {work : Work α} {held : RowKey → Prop} (workflow : String)
    (h : work.within.Ascends before (fun _ _ => True) fun _ => False) :
    (runWorkflow workflow work).Ascends before (fun _ _ => True) held := by
  refine (runInTransaction_ascends h).andThen fun held outcome _ => ?_
  cases outcome with
  | ok a => exact fun _ => trivial
  | error e => exact fun _ _ => trivial

end Work

theorem Query.run_ascends {q : Query} {held : RowKey → Prop}
    (plan : q.plan.Ascends before (fun _ _ => True) fun _ => False) :
    q.run.Ascends before (fun _ _ => True) held :=
  Work.runInTransaction_ascends ⟨fun _ _ => trivial, plan⟩

-- ---------------------------------------------------------------------------
-- Processes in order
-- ---------------------------------------------------------------------------

namespace Store

/-- What is left of the plan, with the lock that it waits for. -/
def Pending.todo (w : Pending) : Plan w.query.Row :=
  match w.awaits with
  | none => w.plan
  | some key => .lock key w.plan

def Stand.Ascends (before : RowKey → RowKey → Prop) (held : RowKey → Prop) (a : Stand α) : Prop :=
  match a.pending with
  | none => a.program.Ascends before (fun _ _ => True) held
  | some w => ∃ next, a.program = .ask (.inside (.query w.query)) next ∧
      (∀ held e, Program.Ascends before (fun _ _ => True) held (next (.error e))) ∧
      w.todo.Ascends before
        (fun held row => Program.Ascends before (fun _ _ => True) held (next (.ok row))) held

/-- The locks `held` cover those of the transaction, if there is one. -/
def Covers (s : Store) (tx? : Option TxId) (held : RowKey → Prop) : Prop :=
  ∀ tx, tx? = some tx → ∀ key, s.Holds tx key → held key

theorem covers_none {s : Store} {held : RowKey → Prop} : s.Covers none held :=
  fun _ htx => nomatch htx

variable {s s' : Store} {a b : Stand α} {mark : Mark} {held : RowKey → Prop}

theorem Stand.Ascends.querying {q : Query} {plan : Plan q.Row} {awaits : Option RowKey}
    {next : Except Error q.Row → Program α}
    (h : Ascends before held ⟨tx?, .ask (.inside (.query q)) next, some ⟨q, plan, awaits⟩⟩) :
    (∀ held e, (next (.error e)).Ascends before (fun _ _ => True) held) ∧
      (Pending.todo ⟨q, plan, awaits⟩).Ascends before
        (fun held row => (next (.ok row)).Ascends before (fun _ _ => True) held) held := by
  obtain ⟨_, program, h⟩ := h
  cases program
  exact h

theorem Moved.ascends (l : s.Locked) (fresh : ¬s.isOpen s.nextTx) (m : Moved s a mark s' b)
    (covers : s.Covers a.tx held) (h : a.Ascends before held) :
    ∃ held', s'.Covers b.tx held' ∧ b.Ascends before held' := by
  obtain ⟨tx?, program, pending⟩ := a
  cases m with
  | stays => exact ⟨held, covers, h⟩
  | @answered _ _ _ r reply next idle =>
    cases pending with
    | none =>
      cases r with
      | query q =>
        obtain ⟨e, rfl⟩ := idle
        exact ⟨held, covers, h.1 held e⟩
      | _ => exact ⟨held, covers, h reply⟩
    | some w =>
      obtain ⟨_, program, failed, -⟩ := h
      cases program
      obtain ⟨e, rfl⟩ := idle
      exact ⟨held, covers, failed held e⟩
  | asked => exact ⟨held, covers, _, rfl, h⟩
  | blocked walk =>
    obtain ⟨failed, todo⟩ := h.querying
    obtain ⟨held', sub, left⟩ := todo.walk walk
    exact ⟨held', fun tx htx key hk => sub _ (covers tx htx key hk), _, rfl, failed, left⟩
  | locked walk =>
    obtain ⟨failed, todo⟩ := h.querying
    obtain ⟨held', sub, left⟩ := todo.walk walk
    refine ⟨_, fun tx htx key hk => ?_, _, rfl, failed, left.2⟩
    obtain rfl := Option.some.inj htx
    exact (acquire_holds.mp hk).imp_right fun hk => sub _ (covers _ rfl key hk)
  | granted =>
    obtain ⟨failed, todo⟩ := h.querying
    refine ⟨_, fun tx htx key hk => ?_, _, rfl, failed, todo.2⟩
    obtain rfl := Option.some.inj htx
    exact (acquire_holds.mp hk).imp_right (covers _ rfl key)
  | reached walk =>
    obtain ⟨failed, todo⟩ := h.querying
    obtain ⟨held', sub, left⟩ := todo.walk walk
    exact ⟨held', fun tx htx key hk => sub _ (covers tx htx key hk), _, rfl, failed, left⟩
  | won =>
    obtain ⟨failed, todo⟩ := h.querying
    refine ⟨_, fun tx htx key hk => ?_, _, rfl, failed, todo.1⟩
    obtain rfl := Option.some.inj htx
    exact (acquire_holds.mp hk).imp_right (covers _ rfl key)
  | @tried _ key holder tx =>
    obtain ⟨failed, todo⟩ := h.querying
    -- A lock that the transaction has already counts as one that it gets.
    by_cases own : holder = tx
    · refine ⟨fun k => k = key ∨ held k, fun tx htx k hk => .inr (covers tx htx k hk), _, rfl,
        failed, ?_⟩
      simpa [Pending.todo, own] using todo.1
    · refine ⟨held, covers, _, rfl, failed, ?_⟩
      simpa [Pending.todo, own] using todo.2
  | queued => exact ⟨held, covers, h⟩
  | failed => exact ⟨held, covers, h.querying.1 held _⟩
  | did walk ends =>
    obtain ⟨held', sub, left⟩ := h.querying.2.walk walk
    exact ⟨held', fun tx htx key hk => sub _ (covers tx htx key hk), ends.ascends left⟩
  | opened =>
    -- Whoever holds a lock is open, which the new transaction was not.
    refine ⟨_, fun tx htx key hk => ?_, h.2⟩
    obtain rfl := Option.some.inj htx
    exact fresh (l.holder_isOpen hk)
  | refused faults e => exact ⟨held, covers, h.1 e⟩
  | published => exact ⟨_, covers_none, h _⟩
  | broke => exact ⟨_, covers_none, h _⟩
  | rolledBack => exact ⟨_, covers_none, h _⟩
  | strayedCommit => exact ⟨_, covers_none, h _⟩
  | strayedRollback => exact ⟨_, covers_none, h _⟩

-- ---------------------------------------------------------------------------
-- Systems
-- ---------------------------------------------------------------------------

theorem Stand.Ascends.awaited (h : a.Ascends before held) (awaited : a.awaited? = some key) :
    ∀ k, held k → k = key ∨ before k key := by
  obtain ⟨tx, program, pending⟩ := a
  obtain ⟨w, rfl, awaits⟩ := Option.bind_eq_some_iff.mp awaited
  obtain ⟨next, -, -, todo⟩ := h
  rw [Pending.todo, awaits] at todo
  exact todo.1

namespace System

variable {Name : Type} [DecidableEq Name] {Result : Name → Type} {sys sys' : System Result}

/-- Every task asks for its locks in an order of its own, with those that its transaction has. -/
def AscendingBy (before : Name → RowKey → RowKey → Prop) (sys : System Result) : Prop :=
  ∀ name p, sys.tasks name = some p →
    ∃ held, sys.store.Covers p.tx held ∧ p.stand.Ascends (before name) held

/-- Every task asks for its locks in order, with those that its transaction has. -/
def Ascending (before : RowKey → RowKey → Prop) (sys : System Result) : Prop :=
  ∀ name p, sys.tasks name = some p →
    ∃ held, sys.store.Covers p.tx held ∧ p.stand.Ascends before held

section

variable {before : Name → RowKey → RowKey → Prop}

omit [DecidableEq Name] in
theorem AscendingBy.start (connections : Nat) {programs : (name : Name) → Program (Result name)}
    (h : ∀ name, (programs name).Ascends (before name) (fun _ _ => True) fun _ => False) :
    (start connections programs).AscendingBy before := by
  intro name p hp
  obtain rfl := Option.some.inj hp
  exact ⟨_, covers_none, h name⟩

theorem AscendingBy.happened (t : sys.Tidy) (l : sys.Locked) (a : sys.AscendingBy before)
    (h : Happened sys sys') : sys'.AscendingBy before := by
  have fresh : ¬sys.store.isOpen sys.store.nextTx := fun opened =>
    Nat.lt_irrefl _ (t.fresh opened)
  cases h with
  | @moved mark next name p p' task m =>
    obtain ⟨held, covers, h⟩ := a name p task
    refine forall_took (m.ascends l.store fresh covers h) fun other q ne hq => ?_
    obtain ⟨held, covers, h⟩ := a other q hq
    refine ⟨held, fun tx htx key hk => covers tx htx key (l.store.holds_before m ?_ hk), h⟩
    exact fun here => ne (t.apart ((txOf_eq hq).trans htx) ((txOf_eq task).trans here))
  | @cancelled _ _ _ pool =>
    intro other q hq
    obtain ⟨held, covers, h⟩ := a other q (task_of_dropped hq).2
    have l' := l.store.repool pool
    exact ⟨held, fun tx htx key hk => covers tx htx key (l'.holds_close hk), h⟩
  | left => exact fun other q hq => a other q (task_of_dropped hq).2
  | armed => exact a

omit [DecidableEq Name] in
/-- A transaction that waits for a lock holds only locks that come before it, in the order of its
task. -/
theorem AscendingBy.awaited (l : sys.Locked) (a : sys.AscendingBy before)
    (awaits : sys.Awaits tx key) (holds : sys.store.Holds tx k) :
    ∃ name, sys.txOf name = some tx ∧ before name k key := by
  have unheld := l.unheld awaits
  obtain ⟨name, p, task, htx, awaited⟩ := awaits
  obtain ⟨held, covers, h⟩ := a name p task
  have upto := h.awaited (p.stand_awaited?.trans awaited) k (covers tx htx k holds)
  refine ⟨name, (txOf_eq task).trans htx, upto.resolve_left ?_⟩
  rintro rfl
  exact unheld holds

end

omit [DecidableEq Name] in
theorem Ascending.start (connections : Nat) {programs : (name : Name) → Program (Result name)}
    (h : ∀ name, (programs name).Ascends before (fun _ _ => True) fun _ => False) :
    (start connections programs).Ascending before :=
  AscendingBy.start connections h

theorem Ascending.happened (t : sys.Tidy) (l : sys.Locked) (a : sys.Ascending before)
    (h : Happened sys sys') : sys'.Ascending before :=
  AscendingBy.happened t l a h

omit [DecidableEq Name] in
/-- A transaction that waits for a lock holds only locks that come before it. -/
theorem Ascending.awaited (l : sys.Locked) (a : sys.Ascending before) (awaits : sys.Awaits tx key)
    (holds : sys.store.Holds tx k) : before k key := by
  obtain ⟨name, -, less⟩ := AscendingBy.awaited l a awaits holds
  exact less

end System

end Store

end Passbook
