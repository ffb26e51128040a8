import Passbook.Proofs.Connections
import Passbook.Proofs.UnitOfWork

/-!
# Transactions among others

Other transactions may be open on the store and keep their locks, but they do not move. A
transaction among them passes over the rows that the others have locked, waits for nothing as long
as it asks for no lock of theirs, and sees what is committed and what it has written itself. What
its queries come to can be read off their plans (`Plan.Comes`), and what a unit of work comes to off
its queries (`Work.Succeeds`); the clock and the handlers of messages may answer anything. The moves
of a task lead to that outcome (`attends_runInTransaction`), and what the task has heard on the way
is what the outcome speaks of (`Attends.run`).
-/

namespace Passbook

namespace Store

-- ---------------------------------------------------------------------------
-- Tasks and what they hear
-- ---------------------------------------------------------------------------

namespace Process

/-- The next move of a task that waits for nothing but a handler's answer. -/
def turn (p : Process α) (now : Instant) (outcome : Except String Unit) : Move :=
  match p.phase with
  | .delivering .. => .hear outcome
  | _ => .step now

/-- What a task hears by a move: what the clock shows, or how a delivery went. -/
def heard (p : Process α) : Move → List Request.Step
  | .step now =>
    match p.phase with
    | .ready (.ask (.inside .clock) _) => [⟨.clock, now⟩]
    | _ => []
  | .hear outcome =>
    match p.phase with
    | .delivering message _ => [⟨.deliver message, outcome⟩]
    | _ => []
  | _ => []

end Process

/-- Whatever the clock shows and the handlers answer, the moves of the process lead to a store and
a process that are so, with all that it has heard. -/
inductive Attends (target : List Request.Step → Store → Process α → Prop) :
    List Request.Step → Store → Process α → Prop
  | here {log : List Request.Step} {s : Store} {p : Process α} : target log s p →
      Attends target log s p
  | move {log : List Request.Step} {s : Store} {p : Process α} :
      (∀ now outcome, Attends target (log ++ p.heard (p.turn now outcome))
        (p.make s (p.turn now outcome)).store (p.make s (p.turn now outcome)).process) →
      Attends target log s p

/-- A step by which nothing is heard. -/
theorem Attends.step {target : List Request.Step → Store → Process α → Prop}
    {log : List Request.Step} {s : Store} {p : Process α}
    (quiet : ∀ now outcome, p.turn now outcome = .step now ∧ p.heard (.step now) = [])
    (h : ∀ now, Attends target log (p.step s now).store (p.step s now).process) :
    Attends target log s p := by
  refine .move fun now outcome => ?_
  obtain ⟨turn, silent⟩ := quiet now outcome
  rw [turn, silent, List.append_nil]
  exact h now

namespace System

variable {Name : Type} [DecidableEq Name] {Result : Name → Type}

/-- What a task hears while things happen. -/
def heard (name : Name) : System Result → List (Happening Name) → List Request.Step
  | _, [] => []
  | sys, h :: rest =>
    (match h with
      | .move other move =>
        if other = name then (sys.tasks name).elim [] (·.heard move) else []
      | _ => []) ++ heard name (sys.after h) rest

/-- So many moves of one task, with what its surroundings show and answer. -/
def attended (name : Name) (around : Nat → Instant × Except String Unit) :
    Nat → System Result → List (Happening Name)
  | 0, _ => []
  | count + 1, sys =>
    let h := .move name <| (sys.tasks name).elim (.step (around 0).1) fun p =>
      p.turn (around 0).1 (around 0).2
    h :: attended name (fun i => around (i + 1)) count (sys.after h)

end System

/-- The moves are those of a task in a system. -/
theorem Attends.run {Name : Type} [DecidableEq Name] {Result : Name → Type} {name : Name}
    {target : List Request.Step → Store → Process (Result name) → Prop}
    {log : List Request.Step} {p : Process (Result name)} (sys : System Result)
    (h : Attends target log sys.store p) (task : sys.tasks name = some p)
    (around : Nat → Instant × Except String Unit) : ∃ count p',
      let happenings := System.attended name around count sys
      (sys.run happenings).tasks name = some p' ∧
        target (log ++ System.heard name sys happenings) (sys.run happenings).store p' := by
  generalize store : sys.store = s at h
  induction h generalizing sys around with
  | here h =>
    refine ⟨0, _, task, ?_⟩
    rw [← store] at h
    simpa [System.heard, System.attended] using h
  | @move log s p _ ih =>
    -- The rest of the moves see the surroundings from their second answer on.
    subst store
    let move := p.turn (around 0).1 (around 0).2
    obtain ⟨count, p', there, h⟩ := ih (around 0).1 (around 0).2 (sys.after (.move name move))
      (System.task_after_move _ task) (fun i => around (i + 1))
      (by rw [System.after_move _ task]; rfl)
    refine ⟨count + 1, p', ?_⟩
    simp only [System.attended, task, Option.elim_some, System.heard, if_true]
    rw [List.append_assoc] at h
    exact ⟨there, h⟩

-- ---------------------------------------------------------------------------
-- A transaction and the locks of others
-- ---------------------------------------------------------------------------

/-- Every lock has one holder, an open transaction, and no transaction is open yet under the next
number. -/
structure Ordered (s : Store) : Prop where
  locked : s.Locked
  fresh : ∀ {tx}, s.isOpen tx → tx < s.nextTx

/-- Between transactions: these rows are committed, these locks are taken, and a connection is idle,
for which nobody waits. -/
structure Between (rows : Tables) (taken : RowKey → Bool) (faults : Faults) (s : Store) : Prop
    extends s.Ordered where
  committed : s.committed = rows
  taken : ∀ key, taken key = (s.holder? key).isSome
  faults : s.faults = faults
  idle : 0 < s.idle
  queue : s.pool.queue = []

/-- In a transaction: it has written this, these rows are committed, these locks are taken by
others, and these tickets wait for a connection. -/
structure Amid (tx : TxId) (rows : Tables) (taken : RowKey → Bool) (faults : Faults)
    (queue : List Ticket) (own : Transaction) (s : Store) : Prop extends s.Ordered where
  committed : s.committed = rows
  own : s.transaction? tx = some own
  taken : ∀ key, taken key ↔ ∃ other, other ≠ tx ∧ s.Holds other key
  faults : s.faults = faults
  queue : s.pool.queue = queue

variable {s : Store} {tx : TxId} {rows : Tables} {taken : RowKey → Bool} {faults : Faults}
  {queue : List Ticket} {own : Transaction}

namespace Amid

theorem isOpen (h : Amid tx rows taken faults queue own s) : s.isOpen tx := by
  rw [Store.isOpen, h.own, Option.isSome_some]

theorem available_iff (h : Amid tx rows taken faults queue own s) (key : RowKey) :
    taken key = false ↔ s.holder? key = none ∨ s.Holds tx key := by
  rw [← Bool.not_eq_true, h.taken]
  constructor
  · intro free
    cases holder : s.holder? key with
    | none => exact .inl rfl
    | some other =>
      have same : other = tx := by_contra fun ne => free ⟨other, ne, holder⟩
      exact .inr (same ▸ holder)
  · rintro (free | held) ⟨other, ne, holds⟩
    · exact nomatch free.symm.trans holds
    · exact ne (holds.unique held)

theorem view (h : Amid tx rows taken faults queue own s) (now : Instant) :
    s.view tx now = .mk rows own now := by
  have seen : s.view tx now = ⟨s.committed, s.ownOf tx, now⟩ := rfl
  rw [seen, h.committed, ownOf_eq h.own]

theorem moveOn (h : Amid tx rows taken faults queue own s) (seqs : Sequences) :
    Amid tx rows taken faults queue own (s.moveOn seqs) where
  locked := h.locked.keep rfl fun _ opened => opened
  fresh opened := h.fresh opened
  committed := h.committed
  own := h.own
  taken := h.taken
  faults := h.faults
  queue := h.queue

/-- A free lock that the transaction takes is not one of the others'. -/
theorem acquire (h : Amid tx rows taken faults queue own s) (free : s.holder? key = none) :
    Amid tx rows taken faults queue own (s.acquire tx key) where
  locked := h.locked.acquire h.isOpen free
  fresh opened := h.fresh opened
  committed := h.committed
  own := h.own
  taken k := by
    refine (h.taken k).trans (exists_congr fun other => and_congr_right fun ne => ?_)
    exact ⟨fun holds => holds.acquire (.inl free) ne,
      fun holds => (acquire_held holds).resolve_left fun here => ne here.1⟩
  faults := h.faults
  queue := h.queue

theorem apply (h : Amid tx rows taken faults queue own s) (change : Change) :
    Amid tx rows taken faults queue (own.apply change) (s.apply tx change) where
  locked := h.locked.apply tx change
  fresh opened := by
    rw [Store.isOpen, apply_transaction?] at opened
    split at opened
    · next here => exact h.fresh (here ▸ h.isOpen)
    · exact h.fresh opened
  committed := h.committed
  own := by
    rw [apply_transaction?, if_pos rfl, h.own]
    rfl
  taken := h.taken
  faults := h.faults
  queue := h.queue

/-- Without the transaction, only the locks of the others are left. -/
theorem close (h : Amid tx rows taken faults [] own s) (committed : Tables) (faults' : Faults) :
    Between committed taken faults' { s.close tx with committed, faults := faults' } where
  locked := (h.locked.close tx).keep rfl fun _ opened => opened
  fresh {other} opened := by
    have next : (s.close tx).nextTx = s.nextTx := close_nextTx ..
    refine Nat.lt_of_lt_of_eq (h.fresh ?_) next.symm
    have opened : ((s.close tx).transaction? other).isSome := opened
    rw [close_transaction?] at opened
    split at opened
    · cases opened
    · exact opened
  committed := rfl
  taken key := by
    rw [Bool.eq_iff_iff, h.taken, Option.isSome_iff_exists]
    refine exists_congr fun other => ⟨fun ⟨ne, holds⟩ => holds.close ne, fun holds => ?_⟩
    refine ⟨?_, h.locked.holds_close holds⟩
    rintro rfl
    exact not_isOpen_close s other ((h.locked.close other).holder_isOpen holds)
  faults := rfl
  idle := by
    change 0 < (s.close tx).pool.idle
    rw [close_pool h.isOpen, Pool.giveBack, h.queue]
    exact Nat.succ_pos _
  queue := by
    change (s.close tx).pool.queue = []
    rw [close_pool h.isOpen, Pool.giveBack, h.queue]

end Amid

/-- A transaction that is begun holds nothing yet. -/
theorem Between.begin (h : Between rows taken faults s) (reached : faults.begin = false) :
    ∃ pool, s.begin = ((s.repool pool).openNext, .opened s.nextTx) ∧
      Amid s.nextTx rows taken faults [] {} (s.repool pool).openNext := by
  obtain ⟨pool, taken?, opened⟩ := begin_of_idle h.idle (h.faults ▸ reached)
  have opens : ∀ other, (s.repool pool).openNext.isOpen other ↔
      other = s.nextTx ∨ s.isOpen other := by
    intro other
    have next : (s.repool pool).nextTx = s.nextTx := rfl
    rw [Store.isOpen, openNext_transaction?, next, repool_transaction?]
    by_cases here : other = s.nextTx <;> simp [here, Store.isOpen]
  refine ⟨pool, opened, ?_⟩
  exact {
    locked := h.locked.keep rfl fun other opened => (opens other).mpr (.inr opened)
    fresh := fun {other} opened => by
      rcases (opens other).mp opened with rfl | opened
      · exact Nat.lt_succ_self _
      · exact Nat.lt_succ_of_lt (h.fresh opened)
    committed := h.committed
    own := (openNext_transaction? ..).trans (if_pos rfl)
    taken := fun key => by
      rw [h.taken, Option.isSome_iff_exists]
      refine exists_congr fun other => ⟨fun holds => ⟨?_, holds⟩, And.right⟩
      rintro rfl
      exact Nat.lt_irrefl _ (h.fresh (h.locked.holder_isOpen holds))
    faults := h.faults
    queue := by
      have queue := h.queue
      rwa [Pool.take?_eq_some taken?] at queue }

/-- Another transaction has locked this. -/
def takenBeside (s : Store) (tx : TxId) (key : RowKey) : Bool := (s.holder? key).any (· ≠ tx)

theorem Ordered.amid (h : s.Ordered) (opened : s.transaction? tx = some own) :
    Amid tx s.committed (s.takenBeside tx) s.faults s.pool.queue own s where
  toOrdered := h
  committed := rfl
  own := opened
  taken key := by
    rw [takenBeside, Option.any_eq_true]
    exact exists_congr fun other => and_comm.trans (and_congr_left fun _ => decide_eq_true_iff)
  faults := rfl
  queue := rfl

def isTaken (s : Store) (key : RowKey) : Bool := (s.holder? key).isSome

theorem Ordered.between (h : s.Ordered) (idle : 0 < s.idle) (queue : s.pool.queue = []) :
    Between s.committed s.isTaken s.faults s :=
  { h with committed := rfl, taken := fun _ => rfl, faults := rfl, idle, queue }

namespace System

variable {Name : Type} [DecidableEq Name] {Result : Name → Type}

theorem ordered_run (connections : Nat) (programs : (name : Name) → Program (Result name))
    (happenings : List (Happening Name)) :
    ((start connections programs).run happenings).store.Ordered where
  locked := (locked_run connections programs happenings).store
  fresh := (tidy_run connections programs happenings).fresh

/-- Where a connection is idle, nobody waits for one. -/
theorem queue_run (connections : Nat) (programs : (name : Name) → Program (Result name))
    (happenings : List (Happening Name)) :
    let s := ((start connections programs).run happenings).store
    0 < s.idle → s.pool.queue = [] := fun idle =>
  (ticketed_run connections programs happenings).sound.served (Nat.ne_of_gt idle)

/-- Where no transaction is open, no lock is taken. -/
theorem between_run (connections : Nat) (programs : (name : Name) → Program (Result name))
    (happenings : List (Happening Name)) :
    let s := ((start connections programs).run happenings).store
    (∀ tx, ¬s.isOpen tx) → 0 < s.idle → Between s.committed (fun _ => false) s.faults s := by
  intro s closed idle
  have ordered := ordered_run connections programs happenings
  have free : s.isTaken = fun _ => false := funext fun key => by
    refine Bool.eq_false_iff.mpr fun taken => ?_
    obtain ⟨tx, holds⟩ := Option.isSome_iff_exists.mp taken
    exact closed tx (ordered.locked.holder_isOpen holds)
  exact free ▸ ordered.between idle (queue_run connections programs happenings idle)

end System

-- ---------------------------------------------------------------------------
-- Plans
-- ---------------------------------------------------------------------------

/-- On these rows, and among others with these locks, the plan waits for no lock of theirs. It fails
with an error that `failed` holds of, or changes rows last of all and succeeds, with a row and a
change that `did` holds of. -/
def Plan.Comes (rows : Tables) (taken : RowKey → Bool) (own : Transaction) (failed : Error → Prop)
    (did : α → Change → Prop) : Plan α → Prop
  | .finish (.error e) => failed e
  | .finish (.ok row) => did row .nothing
  | .look next => ∀ now, (next (.mk rows own now)).Comes rows taken own failed did
  | .draw _ next => ∀ id, (next id).Comes rows taken own failed did
  | .lock key rest => taken key = false ∧ rest.Comes rows taken own failed did
  | .tryLock key next => (next !taken key).Comes rows taken own failed did
  | .stage change rest => ∃ row, rest = .finish (.ok row) ∧ did row change

namespace Plan.Comes

variable {failed : Error → Prop} {did : α → Change → Prop}
  {target : List Request.Step → Store → Process β → Prop} {log : List Request.Step}

theorem mono {failed' : Error → Prop} {did' : α → Change → Prop} {plan : Plan α}
    (h : plan.Comes rows taken own failed did) (fails : ∀ e, failed e → failed' e)
    (does : ∀ row change, did row change → did' row change) :
    plan.Comes rows taken own failed' did' := by
  induction plan with
  | finish outcome =>
    cases outcome with
    | error e => exact fails e h
    | ok row => exact does row .nothing h
  | look next ih => exact fun now => ih _ (h now)
  | draw kind next ih => exact fun id => ih id (h id)
  | lock key rest ih => exact ⟨h.1, ih h.2⟩
  | tryLock key next ih => exact ih _ h
  | stage change rest =>
    obtain ⟨row, rfl, h⟩ := h
    exact ⟨row, rfl, does row change h⟩

theorem write {made : α → Change} {answer : View → Except Error α}
    (refused : ∀ now e, answer (.mk rows own now) = .error e → failed e)
    (wrote : ∀ now row, answer (.mk rows own now) = .ok row → did row (made row)) :
    (write made answer).Comes rows taken own failed did := by
  intro now
  dsimp only
  cases answered : answer (.mk rows own now) with
  | error e => exact refused now e answered
  | ok row => exact ⟨row, rfl, wrote now row answered⟩

theorem read {answer : View → Except Error α}
    (refused : ∀ now e, answer (.mk rows own now) = .error e → failed e)
    (answers : ∀ now row, answer (.mk rows own now) = .ok row → did row .nothing) :
    (read answer).Comes rows taken own failed did := by
  intro now
  dsimp only
  cases answered : answer (.mk rows own now) with
  | error e => exact refused now e answered
  | ok row => exact answers now row answered

/-- A query that asks for no lock of others takes its locks as it comes to them. -/
theorem resumes {q : Query} {plan : Plan q.Row} {did : q.Row → Change → Prop}
    {next : Except Error q.Row → Program β} (h : plan.Comes rows taken own failed did)
    (amid : Amid tx rows taken faults queue own s)
    (after_failure : ∀ {e s'}, failed e → Amid tx rows taken faults queue own s' →
      Attends target log s' ⟨some tx, .ready (next (.error e))⟩)
    (after_success : ∀ {row change s'}, did row change →
      Amid tx rows taken faults queue (own.apply change) s' →
        Attends target log s' ⟨some tx, .ready (next (.ok row))⟩) (now : Instant) :
    Attends target log (Process.resume s tx now plan next).store
      (Process.resume s tx now plan next).process := by
  induction plan generalizing s now with
  | finish outcome =>
    cases outcome with
    | error e => exact after_failure h amid
    | ok row => exact after_success h amid
  | look rest ih =>
    rw [Process.resume_look, amid.view]
    exact ih _ (h now) amid now
  | draw kind rest ih =>
    rw [Process.resume_draw]
    exact ih _ (h _) (amid.moveOn _) now
  | lock key rest ih =>
    rcases (amid.available_iff key).mp h.1 with free | held
    · rw [Process.resume_lock_free free]
      exact .step (fun _ _ => ⟨rfl, rfl⟩) fun now => ih h.2 (amid.acquire free) now
    · rw [Process.resume_lock_held held]
      exact ih h.2 amid now
  | tryLock key rest ih =>
    change Attends target log s ⟨some tx, .trying key rest next⟩
    refine .step (fun _ _ => ⟨rfl, rfl⟩) fun _ => ?_
    simp only [Process.step, Process.tryLock]
    split
    · next free =>
      have available := (amid.available_iff key).mpr (.inl free)
      rw [Plan.Comes, available] at h
      exact .step (fun _ _ => ⟨rfl, rfl⟩) fun now => ih true h (amid.acquire free) now
    · next other holder =>
      have got : (!taken key) = decide (other = tx) := by
        rw [Bool.eq_iff_iff, Bool.not_eq_true', amid.available_iff, decide_eq_true_iff, Holds,
          holder]
        simp
      rw [Plan.Comes, got] at h
      exact .step (fun _ _ => ⟨rfl, rfl⟩) fun now => ih _ h amid now
  | stage change rest =>
    obtain ⟨row, rfl, done⟩ := h
    exact after_success done (amid.apply change)

end Plan.Comes

-- ---------------------------------------------------------------------------
-- Programs
-- ---------------------------------------------------------------------------

namespace Attends

variable {target : List Request.Step → Store → Process β → Prop} {log : List Request.Step}
  {tx? : Option TxId}

theorem clock {next : Instant → Program β}
    (h : ∀ now, Attends target (log ++ [⟨.clock, now⟩]) s ⟨tx?, .ready (next now)⟩) :
    Attends target log s ⟨tx?, .ready (.ask (.inside .clock) next)⟩ :=
  .move fun now _ => h now

theorem deliver {message : Outbox.Message} {next : Except String Unit → Program β}
    (h : ∀ outcome, Attends target (log ++ [⟨.deliver message, outcome⟩]) s
      ⟨tx?, .ready (next outcome)⟩) :
    Attends target log s ⟨tx?, .ready (.ask (.inside (.deliver message)) next)⟩ :=
  .step (fun _ _ => ⟨rfl, rfl⟩) fun _ => .move fun _ outcome => h outcome

theorem record {event : Logging.Event} {next : Unit → Program β}
    (h : Attends target log s ⟨tx?, .ready (next ())⟩) :
    Attends target log s ⟨tx?, .ready (.ask (.inside (.record event)) next)⟩ :=
  .step (fun _ _ => ⟨rfl, rfl⟩) fun _ => h

theorem query {q : Query} {failed : Error → Prop} {did : q.Row → Change → Prop}
    {next : Except Error q.Row → Program β} (h : q.plan.Comes rows taken own failed did)
    (amid : Amid tx rows taken faults queue own s)
    (after_failure : ∀ {e s'}, failed e → Amid tx rows taken faults queue own s' →
      Attends target log s' ⟨some tx, .ready (next (.error e))⟩)
    (after_success : ∀ {row change s'}, did row change →
      Amid tx rows taken faults queue (own.apply change) s' →
        Attends target log s' ⟨some tx, .ready (next (.ok row))⟩) :
    Attends target log s ⟨some tx, .ready (.ask (.inside (.query q)) next)⟩ :=
  -- One step asks the query, and the next goes on with its plan.
  .step (fun _ _ => ⟨rfl, rfl⟩) fun _ => .step (fun _ _ => ⟨rfl, rfl⟩) fun now =>
    h.resumes amid after_failure after_success now

theorem begin {next : Except Error Unit → Program β} (between : Between rows taken faults s)
    (reached : faults.begin = false)
    (h : ∀ {tx s'}, Amid tx rows taken faults [] {} s' →
      Attends target log s' ⟨some tx, .ready (next (.ok ()))⟩) :
    Attends target log s ⟨none, .ready (.ask .begin next)⟩ := by
  obtain ⟨pool, opens, amid⟩ := between.begin reached
  refine .step (fun _ _ => ⟨rfl, rfl⟩) fun now => ?_
  simp only [Process.step, opens]
  exact h amid

/-- A commit publishes what was written, unless it is to fail. -/
theorem commit {next : Except Error Unit → Program β} (amid : Amid tx rows taken faults [] own s)
    (published : ∀ {s'}, faults.commit = false →
      Between (rows.publish own.written own.deleted) taken faults s' →
        Attends target log s' ⟨none, .ready (next (.ok ()))⟩)
    (broke : ∀ {s'}, faults.commit = true →
      Between rows taken { faults with commit := false } s' →
        Attends target log s' ⟨none, .ready (next (.error (connectionReset "commit")))⟩) :
    Attends target log s ⟨some tx, .ready (.ask .commit next)⟩ := by
  refine .step (fun _ _ => ⟨rfl, rfl⟩) fun now => ?_
  simp only [Process.step, Process.finish, Store.commit, amid.own, amid.faults, amid.committed]
  by_cases due : faults.commit
  · rw [if_pos due]
    have same : (s.close tx).committed = rows := (close_committed ..).trans amid.committed
    have faults' : (s.close tx).faults = faults := by
      unfold Store.close
      split <;> exact amid.faults
    simp only [faults']
    exact broke due (same ▸ amid.close ..)
  · rw [if_neg due]
    have faults' : (s.close tx).faults = faults := by
      unfold Store.close
      split <;> exact amid.faults
    exact published (by simpa using due) (faults' ▸ amid.close ..)

end Attends

end Store

-- ---------------------------------------------------------------------------
-- Units of work
-- ---------------------------------------------------------------------------

open Store Work Dialogue

variable {α : Type} {rows : Tables} {taken : RowKey → Bool} {faults : Faults}
  {queue : List Ticket} {own : Transaction} {log : List Request.Step}

/-- On these rows, and among others with these locks, all queries of the work succeed, and so does
the work: `post` holds of what it has heard, what it has written and its result, whatever the clock
shows and the handlers answer. -/
def Work.Succeeds (rows : Tables) (taken : RowKey → Bool)
    (post : List Request.Step → Transaction → α → Prop) (log : List Request.Step)
    (own : Transaction) : Dialogue Request.Reply (Except Error α) → Prop
  | .done (.ok a) => post log own a
  | .done (.error _) => False
  | .ask (.query q) next => q.plan.Comes rows taken own (fun _ => False) fun row change =>
      Succeeds rows taken post log (own.apply change) (next (.ok row))
  | .ask .clock next => ∀ now, Succeeds rows taken post (log ++ [⟨.clock, now⟩]) own (next now)
  | .ask (.deliver message) next => ∀ outcome,
      Succeeds rows taken post (log ++ [⟨.deliver message, outcome⟩]) own (next outcome)
  | .ask (.record _) next => Succeeds rows taken post log own (next ())
  | .ask _ _ => False

namespace Work.Succeeds

variable {post : List Request.Step → Transaction → α → Prop}

theorem andThen {d : Dialogue Request.Reply (Except Error α)} {f : α → Work β}
    {post : List Request.Step → Transaction → β → Prop}
    (h : Succeeds rows taken (fun log own a => Succeeds rows taken post log own (f a).run) log own
      d) : Succeeds rows taken post log own (d.andThen (ExceptT.bindCont f)) := by
  induction d generalizing log own with
  | done outcome =>
    cases outcome with
    | ok a => exact h
    | error e => exact h.elim
  | ask r next ih =>
    cases r with
    | query q =>
      simp only [Succeeds] at h
      exact Plan.Comes.mono h (fun _ no => no) fun _ _ => ih _
    | clock => exact fun now => ih now (h now)
    | deliver message => exact fun outcome => ih outcome (h outcome)
    | record event => exact ih () h
    | _ => exact h.elim

theorem bind {w : Work α} {f : α → Work β} {post : List Request.Step → Transaction → β → Prop}
    (h : Succeeds rows taken (fun log own a => Succeeds rows taken post log own (f a).run) log own
      w.run) : Succeeds rows taken post log own (w >>= f).run :=
  andThen h

theorem clock {next : Instant → Work α}
    (h : ∀ now, Succeeds rows taken post (log ++ [⟨.clock, now⟩]) own (next now).run) :
    Succeeds rows taken post log own (Work.clock >>= next).run :=
  h

theorem query {q : Query} {next : q.Row → Work α}
    (h : q.plan.Comes rows taken own (fun _ => False) fun row change =>
      Succeeds rows taken post log (own.apply change) (next row).run) :
    Succeeds rows taken post log own (Work.query q >>= next).run :=
  h

theorem mono {post' : List Request.Step → Transaction → α → Prop}
    {d : Dialogue Request.Reply (Except Error α)} (h : Succeeds rows taken post log own d)
    (more : ∀ log own a, post log own a → post' log own a) :
    Succeeds rows taken post' log own d := by
  induction d generalizing log own with
  | done outcome =>
    cases outcome with
    | ok a => exact more _ _ _ h
    | error e => exact h.elim
  | ask r next ih =>
    cases r with
    | query q =>
      simp only [Succeeds] at h
      exact Plan.Comes.mono h (fun _ no => no) fun _ _ => ih _
    | clock => exact fun now => ih now (h now)
    | deliver message => exact fun outcome => ih outcome (h outcome)
    | record event => exact ih () h
    | _ => exact h.elim

/-- The moves of a task that does the work lead to where its result leads. -/
theorem attends {s : Store} {tx : TxId} {target : List Request.Step → Store → Process β → Prop}
    {d : Dialogue Request.Reply (Except Error α)} {next : Except Error α → Program β}
    (h : Succeeds rows taken post log own d) (amid : Amid tx rows taken faults queue own s)
    (ends : ∀ {log own a s'}, post log own a → Amid tx rows taken faults queue own s' →
      Attends target log s' ⟨some tx, .ready (next (.ok a))⟩) :
    Attends target log s
      ⟨some tx, .ready ((d.embed Action.inside fun _ reply => reply).andThen next)⟩ := by
  induction d generalizing log own s with
  | done outcome =>
    cases outcome with
    | ok a => exact ends h amid
    | error e => exact h.elim
  | ask r rest ih =>
    cases r with
    | query q =>
      simp only [Succeeds] at h
      exact .query h amid (fun no => no.elim) fun h amid => ih _ h amid
    | clock => exact .clock fun now => ih now (h now) amid
    | deliver message => exact .deliver fun outcome => ih outcome (h outcome) amid
    | record event => exact .record (ih () h amid)
    | _ => exact h.elim

end Work.Succeeds

/-- Work that succeeds in its transaction is committed, unless the commit fails. -/
theorem attends_runInTransaction {s : Store} {work : Work α}
    {post : List Request.Step → Transaction → α → Prop}
    {target : List Request.Step → Store → Process β → Prop} {next : Except Error α → Program β}
    (between : Between rows taken faults s) (reached : faults.begin = false)
    (h : Succeeds rows taken post log {} work.run)
    (published : ∀ {log own a s'}, post log own a → faults.commit = false →
      Between (rows.publish own.written own.deleted) taken faults s' →
        Attends target log s' ⟨none, .ready (next (.ok a))⟩)
    (broke : ∀ {log own a s'}, post log own a → faults.commit = true →
      Between rows taken { faults with commit := false } s' →
        Attends target log s' ⟨none, .ready (next (.error (connectionReset "commit")))⟩) :
    Attends target log s ⟨none, .ready ((runInTransaction work).andThen next)⟩ := by
  simp only [runInTransaction, attemptLogged, attemptOnce, within, Program.begin, perform, bind_eq,
    pure_eq, andThen_assoc, ask_andThen, done_andThen]
  refine .begin between reached fun amid => ?_
  simp only [andThen_assoc]
  refine h.attends amid fun done amid => ?_
  refine .commit amid (fun sound between => ?_) fun due between => ?_
  · exact .record (published done sound between)
  · exact .record (broke done due between)

end Passbook
