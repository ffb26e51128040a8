import Passbook.Proofs.System

/-!
# Open transactions

A move leaves its task in the same transaction, in a new one, or in none (`Moved.passage`). No two
tasks are ever in one transaction, a transaction is open as long as a task is in it, and what is
left of a query changes rows last of all (`Tidy`).
-/

namespace Passbook.Store

-- ---------------------------------------------------------------------------
-- The passage of a transaction
-- ---------------------------------------------------------------------------

/-- Where a move leaves the transaction of its task, and what is open afterwards. -/
inductive Passage (s : Store) : Option TxId → Store → Option TxId → Prop
  | within : s'.nextTx = s.nextTx → (∀ other, s'.isOpen other = s.isOpen other) →
      Passage s tx? s' tx?
  | began : s'.nextTx = s.nextTx + 1 →
      (∀ other, s'.transaction? other =
        if other = s.nextTx then some {} else s.transaction? other) →
      Passage s tx? s' (some s.nextTx)
  | ended : s'.nextTx = s.nextTx →
      (∀ other, s'.transaction? other = if other = tx then none else s.transaction? other) →
      Passage s (some tx) s' none

variable {s s' : Store} {tx : TxId} {mark : Mark} {a b : Stand α}

theorem Moved.passage (m : Moved s a mark s' b) : Passage s a.tx s' b.tx := by
  cases m with
  | did w =>
    refine .within (apply_nextTx ..) fun other => ?_
    rw [isOpen, apply_transaction?, moveOn_transaction?]
    split
    case isTrue h =>
      subst h
      simp [isOpen]
    case isFalse => rfl
  | opened => exact .began rfl (openNext_transaction? (s.repool _))
  | published => exact .ended (close_nextTx ..) (close_transaction? s _)
  | broke => exact .ended (close_nextTx ..) (close_transaction? s _)
  | rolledBack => exact .ended (close_nextTx ..) (close_transaction? s _)
  | _ => exact .within rfl fun _ => rfl

/-- What is left of a query changes rows last of all, as the whole query does. -/
theorem Moved.staged (m : Moved s a mark s' b) (h : a.StagesLast) : b.StagesLast := by
  cases m with
  | stays => exact h
  | queued => exact h
  | asked =>
    rintro _ ⟨⟩
    exact Query.plan_stagesLast _
  | blocked w | locked w =>
    rintro _ ⟨⟩
    have staged : (Plan.lock _ _).StagesLast := (h _ rfl).walk w
    exact staged
  | granted =>
    rintro _ ⟨⟩
    exact h ⟨_, _, some _⟩ rfl
  | reached w =>
    rintro _ ⟨⟩
    exact (h _ rfl).walk w
  | won =>
    rintro _ ⟨⟩
    exact h _ rfl true
  | tried =>
    rintro _ ⟨⟩
    exact h _ rfl _
  | _ => exact fun _ none => nomatch none

/-- Only a task that stays in its transaction does something in it. -/
theorem Moved.did_within (m : Moved s a (.did deed) s' b) :
    ∃ tx, a.tx = some tx ∧ b.tx = some tx := by
  cases m with
  | did w => exact ⟨_, rfl, rfl⟩

theorem Moved.committed_ended (m : Moved s a .committed s' b) :
    ∃ tx own, a.tx = some tx ∧ b.tx = none ∧ s.transaction? tx = some own ∧
      s' = { s.close tx with committed := s.committed.publish own.written own.deleted } := by
  cases m with
  | published h => exact ⟨_, _, rfl, rfl, h, rfl⟩

theorem Moved.committed_same (m : Moved s a mark s' b) (h : mark ≠ .committed) :
    s'.committed = s.committed := by
  cases m with
  | did => exact apply_committed ..
  | published => exact absurd rfl h
  | broke => exact close_committed ..
  | rolledBack => exact close_committed ..
  | _ => rfl

-- ---------------------------------------------------------------------------
-- Tasks and their transactions
-- ---------------------------------------------------------------------------

namespace System

variable {Name : Type} [DecidableEq Name] {Result : Name → Type} {sys sys' : System Result}

/-- Every task has an open transaction of its own, or none. -/
structure Tidy (sys : System Result) : Prop where
  fresh : ∀ {tx}, sys.store.isOpen tx → tx < sys.store.nextTx
  opened : sys.TasksOpen
  staged : sys.TasksStageLast
  apart : ∀ {name other tx}, sys.txOf name = some tx → sys.txOf other = some tx → name = other
  unwritten : ∀ {tx}, sys.store.nextTx ≤ tx → sys.journals tx = []

omit [DecidableEq Name] in
theorem Tidy.start (connections : Nat) (programs : (name : Name) → Program (Result name)) :
    (start connections programs).Tidy where
  fresh h := nomatch h
  opened h := nomatch h
  staged
    | _, _, rfl => fun _ none => nomatch none
  apart h := nomatch h
  unwritten _ := rfl

section

variable {name : Name} {tx? : Option TxId}

omit [DecidableEq Name] in
/-- The tasks are in the transactions that they were in. -/
theorem Tidy.within (t : sys.Tidy) (next : sys'.store.nextTx = sys.store.nextTx)
    (opened : ∀ tx, sys'.store.isOpen tx = sys.store.isOpen tx)
    (tasks : ∀ other, sys'.txOf other = sys.txOf other)
    (journals : ∀ tx, sys.txOf name ≠ some tx → sys'.journals tx = sys.journals tx)
    (staged : sys'.TasksStageLast) : sys'.Tidy where
  fresh h := by
    rw [next]
    exact t.fresh (by rwa [opened] at h)
  opened h := by
    rw [opened]
    exact t.opened (by rwa [tasks] at h)
  staged
  apart h h' := t.apart (by rwa [tasks] at h) (by rwa [tasks] at h')
  unwritten h := by
    rw [next] at h
    refine (journals _ fun mine => ?_).trans (t.unwritten h)
    exact Nat.not_lt.mpr h (t.fresh (t.opened mine))

/-- A task is in a new transaction. -/
theorem Tidy.began (t : sys.Tidy) (next : sys'.store.nextTx = sys.store.nextTx + 1)
    (opened : ∀ tx, sys'.store.transaction? tx =
      if tx = sys.store.nextTx then some {} else sys.store.transaction? tx)
    (tasks : ∀ other, sys'.txOf other =
      if other = name then some sys.store.nextTx else sys.txOf other)
    (journals : ∀ tx, sys.txOf name ≠ some tx → sys'.journals tx = sys.journals tx)
    (staged : sys'.TasksStageLast) : sys'.Tidy where
  fresh h := by
    rw [next]
    rw [isOpen, opened] at h
    split at h
    · next e => exact e ▸ Nat.lt_succ_self _
    · exact Nat.lt_succ_of_lt (t.fresh h)
  opened h := by
    rw [isOpen, opened]
    split
    · rfl
    · next old =>
      rw [tasks] at h
      split at h
      · exact absurd (Option.some.inj h).symm old
      · exact t.opened h
  staged
  apart {one other tx} h h' := by
    rw [tasks] at h h'
    split at h <;> split at h'
    · next here there => exact here.trans there.symm
    · exact absurd (t.fresh (t.opened (h'.trans h.symm))) (Nat.lt_irrefl _)
    · exact absurd (t.fresh (t.opened (h.trans h'.symm))) (Nat.lt_irrefl _)
    · exact t.apart h h'
  unwritten h := by
    rw [next] at h
    refine (journals _ fun mine => ?_).trans (t.unwritten (Nat.le_of_succ_le h))
    exact Nat.lt_asymm h (t.fresh (t.opened mine))

/-- A task has left its transaction, which is over. -/
theorem Tidy.ended (t : sys.Tidy) (mine : sys.txOf name = some tx)
    (next : sys'.store.nextTx = sys.store.nextTx)
    (opened : ∀ other, sys'.store.transaction? other =
      if other = tx then none else sys.store.transaction? other)
    (tasks : ∀ other, sys'.txOf other = if other = name then none else sys.txOf other)
    (journals : ∀ tx, sys.txOf name ≠ some tx → sys'.journals tx = sys.journals tx)
    (staged : sys'.TasksStageLast) : sys'.Tidy := by
  have old : ∀ {other tx'}, sys'.txOf other = some tx' → sys.txOf other = some tx' ∧ tx' ≠ tx := by
    intro other tx' h
    rw [tasks] at h
    split at h
    · cases h
    · next apart =>
      refine ⟨h, ?_⟩
      rintro rfl
      exact apart (t.apart h mine)
  refine ⟨fun h => ?_, fun h => ?_, staged, fun h h' => t.apart (old h).1 (old h').1, fun h => ?_⟩
  · rw [isOpen, opened] at h
    split at h
    · cases h
    · rw [next]
      exact t.fresh h
  · rw [isOpen, opened, if_neg (old h).2]
    exact t.opened (old h).1
  · rw [next] at h
    refine (journals _ fun mine => ?_).trans (t.unwritten h)
    exact Nat.not_lt.mpr h (t.fresh (t.opened mine))

theorem Tidy.passage (t : sys.Tidy)
    (passage : Passage sys.store (sys.txOf name) sys'.store tx?)
    (tasks : ∀ other, sys'.txOf other = if other = name then tx? else sys.txOf other)
    (journals : ∀ tx, sys.txOf name ≠ some tx → sys'.journals tx = sys.journals tx)
    (staged : sys'.TasksStageLast) : sys'.Tidy := by
  generalize mine : sys.txOf name = was at passage
  generalize after : sys'.store = s' at passage
  cases passage with
  | within next opened =>
    refine t.within (after ▸ next) (after ▸ opened) (fun other => ?_) journals staged
    rw [tasks]
    split
    · next h => rw [h, mine]
    · rfl
  | began next opened => exact t.began (after ▸ next) (after ▸ opened) tasks journals staged
  | ended next opened => exact t.ended mine (after ▸ next) (after ▸ opened) tasks journals staged

end

theorem took_journals (sys : System Result) (name : Name) (p : Process (Result name))
    (h : tx? ≠ some other) : (sys.took name tx? mark s' p).journals other = sys.journals other := by
  simp only [took]
  split
  · exact Function.update_of_ne (fun e => h (congrArg some e.symm)) _ _
  · rfl

theorem txOf_dropped (tasks : (name : Name) → Option (Process (Result name))) (name other : Name) :
    (Function.update tasks name none other).bind (·.tx) =
      if other = name then none else (tasks other).bind (·.tx) := by
  by_cases h : other = name
  · subst h
    simp
  · simp [h]

theorem TasksStageLast.happened (staged : sys.TasksStageLast) (h : Happened sys sys') :
    sys'.TasksStageLast := by
  cases h with
  | moved task m =>
    unfold TasksStageLast
    refine forall_took ?_ fun other q _ hq => staged other q hq
    exact m.staged (staged _ _ task)
  | cancelled => exact fun other q hq => staged other q (task_of_dropped hq).2
  | left => exact fun other q hq => staged other q (task_of_dropped hq).2
  | armed => exact staged

theorem Tidy.happened (t : sys.Tidy) (h : Happened sys sys') : sys'.Tidy := by
  have staged := t.staged.happened h
  cases h with
  | @moved mark next name p p' task m =>
    have passage : Passage sys.store (sys.txOf name) next p'.tx := txOf_eq task ▸ m.passage
    exact t.passage passage (txOf_took sys name p')
      (fun other ho => took_journals sys name p' (txOf_eq task ▸ ho)) staged
  | @cancelled tx name p pool task htx =>
    have passage : Passage sys.store (sys.txOf name) ((sys.store.repool pool).close tx) none := by
      rw [txOf_eq task, htx]
      exact .ended (close_nextTx ..) (close_transaction? (sys.store.repool pool) tx)
    exact t.passage passage (txOf_dropped sys.tasks name) (fun _ _ => rfl) staged
  | @left name p pool task htx =>
    have passage : Passage sys.store (sys.txOf name) (sys.store.repool pool) none := by
      rw [txOf_eq task, htx]
      exact .within rfl fun _ => rfl
    exact t.passage passage (txOf_dropped sys.tasks name) (fun _ _ => rfl) staged
  | armed faults => exact ⟨t.fresh, t.opened, staged, t.apart, t.unwritten⟩

end System

end Passbook.Store
