import Passbook.Proofs.AllOrNothing

/-!
# Queries that fail

A task that makes queries in its transaction is answered with rows and with errors. Since no query
changes rows before everything that it can fail at is behind it (`Query.plan_stagesLast`), only the
rows stand for something that was written (`journal_answers`). As long as a task is answered with
nothing but errors it has written nothing, neither in its own transaction nor in another one, and a
commit later on publishes what its successful queries have done (`failures_run`).
-/

namespace Passbook.Store

-- ---------------------------------------------------------------------------
-- Answers
-- ---------------------------------------------------------------------------

/-- The answer that a move brings to the query that a process carries out. -/
def Process.answered (s : Store) (p : Process α) : Move → List Request.Step
  | .step now =>
    match p.phase, p.tx with
    | @Phase.querying _ q plan _, some tx =>
      match (s.advance tx now plan).2 with
      | .finished outcome => [⟨.query q, outcome⟩]
      | .locking .. | .trying .. => []
    | @Phase.querying _ q _ _, none => [⟨.query q, .error noTransaction⟩]
    | _, _ => []
  | .giveUp =>
    match p.phase with
    | @Phase.locking _ q key _ _ => [⟨.query q, .error (lockTimeout key)⟩]
    | _ => []
  | _ => []

def Mark.done : Mark → List Success
  | .did deed => [deed.success]
  | _ => []

/-- A move answers a query with a row when it is recorded that the query has succeeded. -/
theorem Process.successes_answered (s : Store) (p : Process α) (move : Move) :
    successes (p.answered s move) = (p.mark s move).done := by
  obtain ⟨tx, phase⟩ := p
  cases move with
  | step now =>
    cases phase with
    | querying plan next =>
      cases tx with
      | none => rfl
      | some tx =>
        simp only [answered, mark, stepMark]
        cases (s.advance tx now plan).2 with
        | finished outcome => cases outcome <;> rfl
        | locking => rfl
        | trying => rfl
    | ready program =>
      cases program with
      | done result => cases tx <;> rfl
      | ask op next =>
        cases tx with
        | none => cases op <;> rfl
        | some tx =>
          cases op with
          | commit =>
            simp only [answered, mark, stepMark]
            cases (s.commit tx).2 <;> rfl
          | _ => rfl
    | _ => cases tx <;> rfl
  | giveUp => cases phase <;> rfl
  | _ => rfl

theorem Process.answered_told {s : Store} {p : Process α} {move : Move} {q : Query}
    {reply : Except Error q.Row} (h : p.answered s move = [⟨.query q, reply⟩]) :
    ∃ next, p.stand.program = .ask (.inside (.query q)) next ∧
      (p.make s move).process.stand.program = next reply := by
  obtain ⟨tx, phase⟩ := p
  cases move with
  | step now =>
    cases phase with
    | querying plan next =>
      cases tx with
      | none =>
        cases h
        exact ⟨next, rfl, rfl⟩
      | some tx =>
        simp only [answered] at h
        simp only [make, step, resume]
        generalize s.advance tx now plan = result at h
        obtain ⟨s', outcome | ⟨key, rest⟩ | ⟨key, rest⟩⟩ := result
        · cases h
          exact ⟨next, rfl, rfl⟩
        · cases h
        · cases h
    | _ => cases tx <;> cases h
  | giveUp =>
    cases phase with
    | locking key rest next =>
      cases h
      exact ⟨next, rfl, rfl⟩
    | _ => cases h
  | _ => cases h

/-- A move that stays in its transaction and is no success writes nothing. -/
theorem Moved.writes_nothing (m : Moved s a mark s' b) (fresh : a.tx ≠ some s.nextTx)
    (stays : b.tx = a.tx) (inside : a.tx.isSome) (quiet : mark.done = []) :
    s'.committed = s.committed ∧ ∀ tx, s'.transaction? tx = s.transaction? tx := by
  cases m with
  | did => cases quiet
  | opened => exact absurd stays.symm fresh
  | published => cases stays
  | broke => cases stays
  | rolledBack => cases stays
  | _ => exact ⟨rfl, fun _ => rfl⟩

-- ---------------------------------------------------------------------------
-- Systems
-- ---------------------------------------------------------------------------

namespace System

variable {Name : Type} [DecidableEq Name] {Result : Name → Type} {sys sys' : System Result}
  {name : Name} {tx : TxId}

/-- The answer that a happening brings to the query of a task. -/
def answered (name : Name) (sys : System Result) : Happening Name → List Request.Step
  | .move mover move =>
    if mover = name then (sys.tasks name).elim [] (·.answered sys.store move) else []
  | _ => []

/-- What the queries of a task are answered while things happen. -/
def answers (name : Name) : System Result → List (Happening Name) → List Request.Step
  | _, [] => []
  | sys, h :: rest => sys.answered name h ++ answers name (sys.after h) rest

/-- While this happens, the task changes neither committed rows nor what a transaction has
written. -/
def Harmless (name : Name) : System Result → List (Happening Name) → Prop
  | _, [] => True
  | sys, h :: rest =>
    (h.isOf name → (sys.after h).store.committed = sys.store.committed ∧
      ∀ tx, (sys.after h).store.transaction? tx = sys.store.transaction? tx) ∧
      Harmless name (sys.after h) rest

theorem Harmless.alone {later : List (Happening Name)} (h : Harmless name sys later)
    (alone : ∀ h ∈ later, h.isOf name) : (sys.run later).store.committed = sys.store.committed ∧
      ∀ tx, (sys.run later).store.transaction? tx = sys.store.transaction? tx := by
  induction later generalizing sys with
  | nil => exact ⟨rfl, fun _ => rfl⟩
  | cons one rest ih =>
    obtain ⟨committed, own⟩ := h.1 (alone one List.mem_cons_self)
    obtain ⟨committed', own'⟩ := ih h.2 fun h mem => alone h (List.mem_cons_of_mem _ mem)
    exact ⟨committed'.trans committed, fun tx => (own' tx).trans (own tx)⟩

/-- No task comes back to a transaction that it has left. -/
theorem txOf_happened (h : Happened sys sys') (old : tx < sys.store.nextTx)
    (there : sys'.txOf name = some tx) : sys.txOf name = some tx := by
  cases h with
  | @moved mark next mover p p' task m =>
    rw [txOf_took] at there
    split at there
    · next same =>
      subst same
      rw [txOf_eq task]
      have passage : Passage sys.store p.tx next p'.tx := m.passage
      rw [there] at passage
      generalize p.tx = before at passage
      cases passage with
      | within => rfl
      -- A transaction that has just begun is not an old one.
      | began => exact absurd old (Nat.lt_irrefl _)
    · exact there
  | @cancelled _ dropped _ task =>
    rw [txOf, txOf_dropped] at there
    split at there
    · cases there
    · exact there
  | @left dropped _ task =>
    rw [txOf, txOf_dropped] at there
    split at there
    · cases there
    · exact there
  | armed => exact there

theorem txOf_run (t : sys.Tidy) (g : sys.Guarded) {later : List (Happening Name)}
    (old : tx < sys.store.nextTx) (there : (sys.run later).txOf name = some tx) :
    sys.txOf name = some tx := by
  induction later generalizing sys with
  | nil => exact there
  | cons one rest ih =>
    have happened := after_happened t.opened t.staged one
    refine txOf_happened happened old ?_
    exact ih (t.happened happened) (g.happened t happened)
      (Nat.lt_of_lt_of_le old (nextTx_le happened)) there

/-- What happens while a task stays in its transaction is recorded there if it is an answer with a
row, and is harmless otherwise. -/
theorem after_answered (t : sys.Tidy) (h : Happening Name) (here : sys.txOf name = some tx)
    (there : (sys.after h).txOf name = some tx) :
    (sys.after h).currentOf (some tx) =
        sys.currentOf (some tx) ++ successes (sys.answered name h) ∧
      (successes (sys.answered name h) = [] → h.isOf name →
        (sys.after h).store.committed = sys.store.committed ∧
        ∀ other, (sys.after h).store.transaction? other = sys.store.transaction? other) := by
  obtain ⟨p, task, htx⟩ := Option.bind_eq_some_iff.mp here
  cases h with
  | arm faults => exact ⟨(List.append_nil _).symm, fun _ no => nomatch no⟩
  | drop dropped =>
    by_cases same : dropped = name
    · subst same
      simp [after, task, txOf] at there
    · simp only [after]
      cases sys.tasks dropped with
      | none => exact ⟨(List.append_nil _).symm, fun _ => by simp [Happening.isOf, same]⟩
      | some _ => exact ⟨(List.append_nil _).symm, fun _ => by simp [Happening.isOf, same]⟩
  | move mover move =>
    by_cases same : mover = name
    · subst same
      have opened : ∀ tx, p.tx = some tx → sys.store.isOpen tx := fun tx htx =>
        t.opened ((txOf_eq task).trans htx)
      -- What is left of a query changes rows only when nothing can fail any more.
      have m := p.make_moved move opened (t.staged _ _ task)
      simp only [answered, if_true, task, Option.elim_some, p.successes_answered]
      rw [txOf_eq (task_after_move move task)] at there
      rw [after_move move task, htx]
      refine ⟨?_, fun quiet _ => ?_⟩
      · cases p.mark sys.store move <;> simp [took, currentOf, Mark.done]
      · have fresh : p.stand.tx ≠ some sys.store.nextTx := fun h =>
          Nat.lt_irrefl _ (t.fresh (t.opened ((txOf_eq task).trans h)))
        exact m.writes_nothing fresh (there.trans htx.symm) (Option.isSome_of_eq_some htx) quiet
    · -- Another task is in a transaction of its own, and its journal is another one.
      refine ⟨?_, fun _ => by simp [Happening.isOf, same]⟩
      rw [answered, if_neg same]
      simp only [after]
      cases mover_task : sys.tasks mover with
      | none => exact (List.append_nil _).symm
      | some other =>
        have apart : other.tx ≠ some tx := fun h =>
          same (t.apart ((txOf_eq mover_task).trans h) here)
        dsimp only
        rw [currentOf, took_journals sys mover _ apart]
        exact (List.append_nil _).symm

/-- What is recorded of a stretch in which a task stays in its transaction are the answers with
rows. -/
theorem journal_answers (t : sys.Tidy) (g : sys.Guarded) {later : List (Happening Name)}
    (here : sys.txOf name = some tx) (there : (sys.run later).txOf name = some tx) :
    (sys.run later).currentOf (some tx) =
        sys.currentOf (some tx) ++ successes (sys.answers name later) ∧
      (successes (sys.answers name later) = [] → Harmless name sys later) := by
  induction later generalizing sys with
  | nil => exact ⟨(List.append_nil _).symm, fun _ => trivial⟩
  | cons one rest ih =>
    have happened := after_happened t.opened t.staged one
    have t' := t.happened happened
    have g' := g.happened t happened
    have old : tx < (sys.after one).store.nextTx :=
      Nat.lt_of_lt_of_le (t.fresh (t.opened here)) (nextTx_le happened)
    -- It is there at the end, and so it has not left in between.
    have between : (sys.after one).txOf name = some tx := txOf_run t' g' old there
    obtain ⟨first, harmless⟩ := after_answered t one here between
    obtain ⟨more, rest_harmless⟩ := ih t' g' between there
    have split : successes (sys.answers name (one :: rest)) =
        successes (sys.answered name one) ++ successes ((sys.after one).answers name rest) :=
      List.filterMap_append
    refine ⟨?_, fun quiet => ?_⟩
    · rw [split, ← List.append_assoc, ← first]
      exact more
    · rw [split, List.append_eq_nil_iff] at quiet
      exact ⟨harmless quiet.1, rest_harmless quiet.2⟩

/-- What a task has done while it stayed in its transaction, which had written `own` before. -/
structure SuccessesWrite (sys : System Result) (name : Name) (tx : TxId) (own : Transaction)
    (later : List (Happening Name)) : Prop where
  /-- The transaction has written what the queries did that were answered with a row. -/
  written : (sys.run later).store.transaction? tx =
    some (own.after (successes (sys.answers name later)))
  /-- Where every answer was an error, the task has changed neither committed rows nor what its
  transaction or another one has written. -/
  failed : successes (sys.answers name later) = [] →
    (sys.run later).store.transaction? tx = some own ∧ Harmless name sys later
  /-- Then all is as it was, unless others have done something meanwhile. -/
  alone : successes (sys.answers name later) = [] → (∀ h ∈ later, h.isOf name) →
    (sys.run later).store.committed = sys.store.committed ∧
      ∀ other, (sys.run later).store.transaction? other = sys.store.transaction? other
  /-- Each answer is the one that the task's program goes on with. -/
  told : ∀ p move q reply, (sys.run later).tasks name = some p →
    p.answered (sys.run later).store move = [⟨.query q, reply⟩] →
      ∃ next, p.stand.program = .ask (.inside (.query q)) next ∧
        (p.make (sys.run later).store move).process.stand.program = next reply
  /-- A commit after that publishes what the successful queries did, and nothing else. -/
  published : ∀ p move, (sys.run later).tasks name = some p →
    p.mark (sys.run later).store move = .committed →
      ((sys.run later).after (.move name move)).store.committed =
        (sys.run later).store.committed.publish
          (own.after (successes (sys.answers name later))).written
          (own.after (successes (sys.answers name later))).deleted

/-- A query that fails, for whatever reason and at whichever of its locks, writes nothing: of all
that a task has been answered in its transaction only the rows count. -/
theorem failures_run (connections : Nat) (programs : (name : Name) → Program (Result name))
    (happenings later : List (Happening Name)) (name : Name) (tx : TxId) (own : Transaction) :
    let sys := (start connections programs).run happenings
    sys.txOf name = some tx → sys.store.transaction? tx = some own →
    (sys.run later).txOf name = some tx → SuccessesWrite sys name tx own later := by
  intro sys here opened there
  have t : sys.Tidy := tidy_run connections programs happenings
  have g : sys.Guarded := guarded_run connections programs happenings
  have w : sys.Written := written_run connections programs happenings
  have t' : (sys.run later).Tidy := run_append (start connections programs) .. ▸ tidy_run ..
  have w' : (sys.run later).Written := run_append (start connections programs) .. ▸ written_run ..
  obtain ⟨journal, harmless⟩ := journal_answers t g here there
  have written : (sys.run later).store.transaction? tx =
      some (own.after (successes (sys.answers name later))) := by
    obtain ⟨own', opened'⟩ := Option.isSome_iff_exists.mp (t'.opened there)
    rw [opened', w'.opened opened', journal, Transaction.after_append, ← w.opened opened]
  refine ⟨written, fun quiet => ⟨?_, harmless quiet⟩, fun quiet => (harmless quiet).alone,
    fun p move q reply _ => Process.answered_told, fun p move task commits => ?_⟩
  · rw [written, quiet]
    rfl
  · have m := p.make_moved move (fun tx htx => t'.opened ((txOf_eq task).trans htx))
      (t'.staged _ _ task)
    rw [commits] at m
    obtain ⟨tx', own', htx, -, opened', published⟩ := m.committed_ended
    obtain rfl : tx = tx' := Option.some.inj (there.symm.trans ((txOf_eq task).trans htx))
    obtain rfl := Option.some.inj (written.symm.trans opened')
    rw [after_move move task]
    exact congrArg Store.committed published

/-- One task keeps an account locked that is not there. Another one opens an account, asks for the
locked one in vain, and commits all the same. -/
def undeterred : Fin 2 → Program (Except Error Unit)
  | 0 => .ask .begin fun _ => .ask (.inside (.query (.lockAccount ⟨7⟩))) fun _ => .done (.ok ())
  | 1 => Work.runInTransaction do
    let _ ← Work.query (.createAccount ⟨"alice", 10, .usd⟩)
    let _ ← Work.attempt (Work.query (.adjustBalance ⟨⟨7⟩, 5⟩))

theorem failures_undeterred :
    let sys := (start 2 undeterred).run (steps 0 4 ++ steps 1 4)
    let later := steps 1 2 ++ [.move 1 .giveUp]
    (sys.answers 1 later).length = 1 ∧ (successes (sys.answers 1 later)).length = 0 ∧
      ((sys.run later).run (steps 1 1)).store.committed.accounts.values.map (·.owner) = ["alice"] ∧
      ∃ own, SuccessesWrite sys 1 1 own later := by
  intro sys later
  have here : sys.txOf 1 = some 1 := by decide +kernel
  have there : (sys.run later).txOf 1 = some 1 := by decide +kernel
  obtain ⟨own, opened⟩ := Option.isSome_iff_exists.mp
    (by decide +kernel : (sys.store.transaction? 1).isSome)
  exact ⟨by decide +kernel, by decide +kernel, by decide +kernel, own,
    failures_run 2 undeterred (steps 0 4 ++ steps 1 4) later 1 1 own here opened there⟩

end System

end Passbook.Store
