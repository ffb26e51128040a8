import Passbook.Proofs.Locks
import Passbook.Proofs.Replay
import Passbook.Work.Workflow

/-!
# Transactions alone

A transaction that is alone on a store waits for nothing: every lock is free or its own, and what it
sees are the committed rows and what it has written itself. So what its queries come to can be read
off their plans (`Plan.Yields`), and what a unit of work comes to off its queries (`Work.Yields`).
The steps of a workflow, taken one after the other, lead to that outcome and to a commit or a
rollback (`leads_runWorkflow`), whatever the clock shows.
-/

namespace Passbook

namespace Store

-- ---------------------------------------------------------------------------
-- Steps in a row
-- ---------------------------------------------------------------------------

/-- Whatever the clock shows, steps of the process lead to a store and a process that are so. -/
inductive Leads (target : Store → Process α → Prop) : Store → Process α → Prop
  | here {s : Store} {p : Process α} : target s p → Leads target s p
  | step {s : Store} {p : Process α} :
      (∀ now, Leads target (p.step s now).store (p.step s now).process) → Leads target s p

/-- Steps of one task, the clock showing one instant after another. -/
def clockedSteps {Name : Type} (name : Name) (clock : Nat → Instant) (count : Nat) :
    List (Happening Name) :=
  (List.range count).map fun i => .move name (.step (clock i))

theorem clockedSteps_succ {Name : Type} (name : Name) (clock : Nat → Instant) (count : Nat) :
    clockedSteps name clock (count + 1) =
      .move name (.step (clock 0)) :: clockedSteps name (fun i => clock (i + 1)) count := by
  rw [clockedSteps, List.range_succ_eq_map, List.map_cons, List.map_map]
  rfl

/-- The steps are those of a task in a system. -/
theorem Leads.run {Name : Type} [DecidableEq Name] {Result : Name → Type} {name : Name}
    {target : Store → Process (Result name) → Prop} {p : Process (Result name)}
    (sys : System Result) (h : Leads target sys.store p) (task : sys.tasks name = some p)
    (clock : Nat → Instant) : ∃ count p',
      (sys.run (clockedSteps name clock count)).tasks name = some p' ∧
        target (sys.run (clockedSteps name clock count)).store p' := by
  generalize store : sys.store = s at h
  induction h generalizing sys clock with
  | here h => exact ⟨0, _, task, store ▸ h⟩
  | step _ ih =>
    -- The rest of the steps see the clock from its second instant on.
    subst store
    obtain ⟨count, p', there, h⟩ := ih (clock 0) (sys.after (.move name (.step (clock 0))))
      (System.task_after_move _ task) (fun i => clock (i + 1))
      (by rw [System.after_move _ task]; rfl)
    refine ⟨count + 1, p', ?_⟩
    rw [clockedSteps_succ]
    exact ⟨there, h⟩

-- ---------------------------------------------------------------------------
-- A transaction alone on a store
-- ---------------------------------------------------------------------------

/-- The transaction is alone on the store, and this is what it sees and has drawn. -/
structure Solo (tx : TxId) (rows : Tables) (own : Transaction) (seqs : Sequences) (s : Store) :
    Prop where
  committed : s.committed = rows
  own : s.transaction? tx = some own
  sequences : s.sequences = seqs
  locks : ∀ {key holder}, s.Holds holder key → holder = tx
  faults : s.faults = {}

/-- No lock is held, there is a connection for a transaction, and no failure is due. -/
structure AtRest (s : Store) : Prop where
  locks : ∀ key, s.holder? key = none
  idle : 0 < s.idle
  faults : s.faults = {}

namespace Solo

variable {s : Store} {tx : TxId} {rows : Tables} {own : Transaction} {seqs : Sequences}

theorem view (h : Solo tx rows own seqs s) (now : Instant) :
    s.view tx now = alone rows own now := by
  have seen : s.view tx now = alone s.committed (s.ownOf tx) now := rfl
  rw [seen, h.committed, ownOf_eq h.own]

theorem moveOn (h : Solo tx rows own seqs s) (seqs' : Sequences) :
    Solo tx rows own seqs' (s.moveOn seqs') :=
  ⟨h.committed, h.own, rfl, h.locks, h.faults⟩

theorem acquire (h : Solo tx rows own seqs s) (key : RowKey) :
    Solo tx rows own seqs (s.acquire tx key) where
  committed := h.committed
  own := h.own
  sequences := h.sequences
  locks held := (acquire_held held).elim And.left h.locks
  faults := h.faults

theorem apply (h : Solo tx rows own seqs s) (change : Change) :
    Solo tx rows (own.apply change) seqs (s.apply tx change) where
  committed := h.committed
  own := by rw [apply_transaction?, if_pos rfl, h.own]; rfl
  sequences := h.sequences
  locks := h.locks
  faults := h.faults

end Solo

-- ---------------------------------------------------------------------------
-- Plans
-- ---------------------------------------------------------------------------

/-- On these rows and sequences the plan fails with an error that `failed` holds of, or changes rows
last of all and succeeds, with a row and a change that `did` holds of; both are told the sequences
that are left. -/
def Plan.Yields (rows : Tables) (own : Transaction) (failed : Sequences → Error → Prop)
    (did : Sequences → α → Change → Prop) (seqs : Sequences) : Plan α → Prop
  | .finish (.error e) => failed seqs e
  | .finish (.ok row) => did seqs row .nothing
  | .look next => ∀ now, (next (alone rows own now)).Yields rows own failed did seqs
  | .draw kind next =>
    (next (seqs.draw kind).1).Yields rows own failed did (seqs.draw kind).2
  | .lock _ rest => rest.Yields rows own failed did seqs
  | .tryLock _ next => (next true).Yields rows own failed did seqs
  | .stage change rest => ∃ row, rest = .finish (.ok row) ∧ did seqs row change

variable {rows : Tables} {own : Transaction} {seqs : Sequences} {s : Store} {tx : TxId}
  {target : Store → Process β → Prop}

namespace Plan.Yields

variable {failed : Sequences → Error → Prop} {did : Sequences → α → Change → Prop}

theorem check {passed : Except Error Unit} {next : Plan α}
    (refused : ∀ e, passed = .error e → failed seqs e)
    (rest : passed = .ok () → next.Yields rows own failed did seqs) :
    (check passed next).Yields rows own failed did seqs := by
  cases passed with
  | error e => exact refused e rfl
  | ok _ => exact rest rfl

theorem insert {allowed : View → Except Error Unit} {made : α → Change}
    {new : Id kind → Instant → α}
    (refused : ∀ now e, allowed (alone rows own now) = .error e → failed seqs e)
    (made_row : ∀ now now', allowed (alone rows own now) = .ok () →
      let row := new (seqs.draw kind).1 now'
      did (seqs.draw kind).2 row (made row)) :
    (insert kind allowed made new).Yields rows own failed did seqs :=
  fun now => check (refused now) fun passed now' => ⟨_, rfl, made_row now now' passed⟩

theorem both {failed' failed'' : Sequences → Error → Prop}
    {did' did'' : Sequences → α → Change → Prop} {plan : Plan α}
    (h : plan.Yields rows own failed did seqs) (h' : plan.Yields rows own failed' did' seqs)
    (fails : ∀ seqs e, failed seqs e → failed' seqs e → failed'' seqs e)
    (does : ∀ seqs row change, did seqs row change → did' seqs row change →
      did'' seqs row change) : plan.Yields rows own failed'' did'' seqs := by
  induction plan generalizing seqs with
  | finish outcome =>
    cases outcome with
    | error e => exact fails seqs e h h'
    | ok row => exact does seqs row .nothing h h'
  | look next ih => exact fun now => ih _ (h now) (h' now)
  | draw kind next ih => exact ih _ h h'
  | lock key rest ih => exact ih h h'
  | tryLock key next ih => exact ih true h h'
  | stage change rest =>
    obtain ⟨row, rfl, h⟩ := h
    obtain ⟨_, ⟨⟩, h'⟩ := h'
    exact ⟨row, rfl, does seqs row change h h'⟩

/-- A query of a transaction alone takes its locks as it comes to them. -/
theorem resumes {q : Query} {plan : Plan q.Row} {did : Sequences → q.Row → Change → Prop}
    {next : Except Error q.Row → Program β} (h : plan.Yields rows own failed did seqs)
    (solo : Solo tx rows own seqs s)
    (after_failure : ∀ {seqs' e s'}, failed seqs' e → Solo tx rows own seqs' s' →
      Leads target s' ⟨some tx, .ready (next (.error e))⟩)
    (after_success : ∀ {seqs' row change s'}, did seqs' row change →
      Solo tx rows (own.apply change) seqs' s' →
        Leads target s' ⟨some tx, .ready (next (.ok row))⟩) (now : Instant) :
    Leads target (Process.resume s tx now plan next).store
      (Process.resume s tx now plan next).process := by
  induction plan generalizing seqs s now with
  | finish outcome =>
    cases outcome with
    | error e => exact after_failure h solo
    | ok row => exact after_success h solo
  | look rest ih =>
    rw [Process.resume_look, solo.view]
    exact ih _ (h now) solo now
  | draw kind rest ih =>
    rw [Process.resume_draw, solo.sequences]
    exact ih _ h (solo.moveOn _) now
  | lock key rest ih =>
    cases holder : s.holder? key with
    | none =>
      rw [Process.resume_lock_free holder]
      exact .step fun now => ih h (solo.acquire key) now
    | some other =>
      -- Nobody else is there to hold the lock.
      obtain rfl := solo.locks holder
      rw [Process.resume_lock_held holder]
      exact ih h solo now
  | tryLock key rest ih =>
    -- One step comes to the lock, one takes it, and the next goes on with it.
    change Leads target s ⟨some tx, .trying key rest next⟩
    refine .step fun _ => ?_
    simp only [Process.step, Process.tryLock]
    split
    · exact .step fun now => ih true h (solo.acquire key) now
    · next other holder =>
      obtain rfl := solo.locks holder
      rw [decide_eq_true rfl]
      exact .step fun now => ih true h solo now
  | stage change rest =>
    obtain ⟨row, rfl, done⟩ := h
    exact after_success done (solo.apply change)

end Plan.Yields

-- ---------------------------------------------------------------------------
-- Programs
-- ---------------------------------------------------------------------------

namespace Leads

theorem record {event : Logging.Event} {next : Unit → Program β} {tx? : Option TxId}
    (h : Leads target s ⟨tx?, .ready (next ())⟩) :
    Leads target s ⟨tx?, .ready (.ask (.inside (.record event)) next)⟩ :=
  .step fun _ => h

theorem finish {b : β} {tx? : Option TxId} (h : target s ⟨tx?, .finished b⟩) :
    Leads target s ⟨tx?, .ready (.done b)⟩ :=
  .step fun _ => .here h

theorem begin {next : Except Error Unit → Program β} (rest : s.AtRest)
    (h : ∀ {s'}, Solo s.nextTx s.committed {} s.sequences s' →
      Leads target s' ⟨some s.nextTx, .ready (next (.ok ()))⟩) :
    Leads target s ⟨none, .ready (.ask .begin next)⟩ := by
  obtain ⟨pool, -, opens⟩ := begin_of_idle rest.idle (by simp [rest.faults])
  refine .step fun now => ?_
  simp only [Process.step, opens]
  exact h {
    committed := rfl
    own := (openNext_transaction? (s.repool pool) _).trans (if_pos rfl)
    sequences := rfl
    locks := fun held => (Option.some_ne_none _ (held.symm.trans (rest.locks _))).elim
    faults := rest.faults }

theorem commit {next : Except Error Unit → Program β} (solo : Solo tx rows own seqs s)
    (h : ∀ {s' : Store}, s'.committed = rows.publish own.written own.deleted →
      Leads target s' ⟨none, .ready (next (.ok ()))⟩) :
    Leads target s ⟨some tx, .ready (.ask .commit next)⟩ := by
  have commits : s.commit tx =
      ({ s.close tx with committed := s.committed.publish own.written own.deleted }, .ok ()) := by
    have sound : ¬s.faults.commit = true := by simp [solo.faults]
    simp only [Store.commit, if_neg sound, solo.own]
  refine .step fun now => ?_
  simp only [Process.step, Process.finish, commits]
  exact h (by rw [solo.committed])

theorem rollback {next : Except Error Unit → Program β} (solo : Solo tx rows own seqs s)
    (h : ∀ {s' : Store}, s'.committed = rows → Leads target s' ⟨none, .ready (next (.ok ()))⟩) :
    Leads target s ⟨some tx, .ready (.ask .rollback next)⟩ := by
  have undoes : s.rollback tx = (s.close tx, .ok ()) := by
    have sound : ¬s.faults.rollback = true := by simp [solo.faults]
    rw [Store.rollback, if_neg sound]
  refine .step fun now => ?_
  simp only [Process.step, Process.finish, undoes]
  exact h ((close_committed ..).trans solo.committed)

end Leads

end Store

-- ---------------------------------------------------------------------------
-- Units of work
-- ---------------------------------------------------------------------------

open Store Work Dialogue

variable {α : Type} {rows : Tables} {post : Transaction → Except Error α → Prop}
  {own : Transaction} {seqs : Sequences}

/-- On these rows the work makes only queries and comes to an outcome that `post` holds of, with
what it has written. -/
def Work.Yields (rows : Tables) (post : Transaction → Except Error α → Prop) (own : Transaction)
    (seqs : Sequences) : Dialogue Request.Reply (Except Error α) → Prop
  | .done outcome => post own outcome
  | .ask (.query q) next => q.plan.Yields rows own
      (fun seqs' e => Yields rows post own seqs' (next (.error e)))
      (fun seqs' row change => Yields rows post (own.apply change) seqs' (next (.ok row))) seqs
  | .ask _ _ => False

namespace Work.Yields

variable {s : Store} {tx : TxId} {target : Store → Process β → Prop}

/-- Work that starts with a query ends when this fails, and else goes on with its row. -/
theorem query {q : Query} {next : q.Row → Work α}
    (h : q.plan.Yields rows own (fun _ e => post own (.error e))
      (fun seqs' row change => Yields rows post (own.apply change) seqs' (next row).run) seqs) :
    Yields rows post own seqs (query q >>= next).run :=
  h

theorem both {post' : Transaction → Except Error α → Prop}
    {d : Dialogue Request.Reply (Except Error α)} (h : Yields rows post own seqs d)
    (h' : Yields rows post' own seqs d) :
    Yields rows (fun own outcome => post own outcome ∧ post' own outcome) own seqs d := by
  induction d generalizing own seqs with
  | done outcome => exact ⟨h, h'⟩
  | ask r rest ih =>
    cases r with
    | query q =>
      simp only [Yields] at h h' ⊢
      exact h.both h' (fun _ _ => ih _) fun _ _ _ => ih _
    | _ => exact h.elim

/-- The steps of the work lead to where its outcome leads. -/
theorem leads {d : Dialogue Request.Reply (Except Error α)} {next : Except Error α → Program β}
    (h : Yields rows post own seqs d) (solo : Solo tx rows own seqs s)
    (ends : ∀ {own' outcome seqs' s'}, post own' outcome → Solo tx rows own' seqs' s' →
      Leads target s' ⟨some tx, .ready (next outcome)⟩) :
    Leads target s
      ⟨some tx, .ready ((d.embed Action.inside fun _ reply => reply).andThen next)⟩ := by
  induction d generalizing own seqs s with
  | done outcome => exact ends h solo
  | ask r rest ih =>
    cases r with
    | query q =>
      simp only [Yields] at h
      -- One step asks the query, and the next goes on with its plan.
      refine .step fun now => .step fun now => ?_
      exact h.resumes solo (fun h solo => ih _ h solo) (fun h solo => ih _ h solo) now
    | _ => exact h.elim

end Work.Yields

/-- What a workflow has come to: its outcome, and the rows that are committed then. -/
def Concluded (rows : Tables) (post : Transaction → Except Error α → Prop) (s : Store)
    (p : Process (Except Error α)) : Prop :=
  ∃ own outcome, post own outcome ∧ p.phase = .finished outcome ∧ s.committed =
    match outcome with
    | .ok _ => rows.publish own.written own.deleted
    | .error _ => rows

/-- A workflow that is alone is committed when its work succeeds, and rolled back when it fails. -/
theorem leads_runWorkflow {work : Work α} {s : Store} (rest : s.AtRest) (name : String)
    (h : Yields s.committed post {} s.sequences work.run) :
    Leads (Concluded s.committed post) s (.start none (runWorkflow name work)) := by
  simp only [runWorkflow, runInTransaction, attemptLogged, attemptOnce, within, Program.begin,
    perform, bind_eq, pure_eq, andThen_assoc, ask_andThen, done_andThen]
  refine .begin rest fun solo => ?_
  simp only [andThen_assoc]
  refine h.leads solo fun {own outcome _ _} came solo => ?_
  cases outcome with
  | ok a =>
    refine .commit solo fun committed => ?_
    refine .record (.record (.finish ?_))
    exact ⟨own, .ok a, came, rfl, committed⟩
  | error e =>
    refine .rollback solo fun committed => ?_
    refine .record (.record (.record (.record (.finish ?_))))
    exact ⟨own, .error e, came, rfl, committed⟩

end Passbook
