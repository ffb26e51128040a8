import Passbook.Proofs.Guarded

/-!
# Locks and their holders

Every row lock that is taken has one holder, an open transaction (`Locked`). No move gives a lock
to a transaction other than that of its task (`Locked.holds_before`), and a task that waits for a
lock does not hold it (`System.Locked`).
-/

namespace Passbook.Store

-- ---------------------------------------------------------------------------
-- Lists of locks
-- ---------------------------------------------------------------------------

/-- Every lock is taken once, by an open transaction. -/
structure Locked (s : Store) : Prop where
  distinct : (s.locks.map Prod.fst).Nodup
  owned : ∀ {key tx}, (key, tx) ∈ s.locks → s.isOpen tx

theorem mem_of_lookup {rows : List (RowKey × TxId)} (h : rows.lookup key = some tx) :
    (key, tx) ∈ rows := by
  obtain ⟨first, rest, rfl, -⟩ := List.lookup_eq_some_iff.mp h
  simp

theorem lookup_of_mem {rows : List (RowKey × TxId)} (distinct : (rows.map Prod.fst).Nodup)
    (h : (key, tx) ∈ rows) : rows.lookup key = some tx := by
  induction rows with
  | nil => exact nomatch h
  | cons row rest ih =>
    obtain ⟨k, holder⟩ := row
    obtain ⟨new, distinct⟩ := List.nodup_cons.mp distinct
    rw [lookup_cons_ite]
    rcases List.mem_cons.mp h with here | there
    · obtain ⟨rfl, rfl⟩ := Prod.mk.inj here
      exact if_pos rfl
    · have apart : key ≠ k := fun here => new (List.mem_map.mpr ⟨_, there, here⟩)
      exact (if_neg apart).trans (ih distinct there)

variable {s s' : Store} {tx other : TxId} {key k : RowKey} {a b : Stand α} {mark : Mark}

theorem Holds.mem (h : s.Holds tx key) : (key, tx) ∈ s.locks := mem_of_lookup h

namespace Locked

theorem holds_iff (l : s.Locked) : s.Holds tx key ↔ (key, tx) ∈ s.locks :=
  ⟨Holds.mem, lookup_of_mem l.distinct⟩

theorem mem_locksOf (l : s.Locked) : key ∈ s.locksOf tx ↔ s.Holds tx key := by
  rw [l.holds_iff]
  simp [locksOf]

theorem holder_isOpen (l : s.Locked) (h : s.Holds tx key) : s.isOpen tx := l.owned h.mem

theorem start (connections : Nat) : (ofConnections connections).Locked where
  distinct := .nil
  owned h := nomatch h

/-- Locks are kept when they, and the transactions that are open, stay the same. -/
theorem keep (l : s.Locked) (locks : s'.locks = s.locks)
    (opened : ∀ tx, s.isOpen tx → s'.isOpen tx) : s'.Locked where
  distinct := locks ▸ l.distinct
  owned h := opened _ (l.owned (locks ▸ h))

theorem acquire (l : s.Locked) (opened : s.isOpen tx) (free : s.holder? key = none) :
    (s.acquire tx key).Locked where
  distinct := by
    refine List.nodup_cons.mpr ⟨fun taken => ?_, l.distinct⟩
    obtain ⟨⟨k, holder⟩, lock, rfl⟩ := List.mem_map.mp taken
    have held : s.Holds holder k := l.holds_iff.mpr lock
    exact nomatch free.symm.trans held
  owned h := by
    rcases List.mem_cons.mp h with here | there
    · obtain ⟨rfl, rfl⟩ := Prod.mk.inj here
      exact opened
    · exact l.owned there

theorem close (l : s.Locked) (tx : TxId) : (s.close tx).Locked := by
  by_cases opened : s.isOpen tx
  case neg =>
    rw [Store.close, if_neg opened]
    exact l
  have locks : (s.close tx).locks = s.locks.filter (·.2 ≠ tx) := by
    rw [Store.close, if_pos opened]
  refine ⟨?_, fun {key holder} h => ?_⟩
  · rw [locks]
    exact (List.filter_sublist.map _).nodup l.distinct
  · rw [locks] at h
    obtain ⟨h, ne⟩ := List.mem_filter.mp h
    rw [Store.isOpen, close_transaction?, if_neg (by simpa using ne)]
    exact l.owned h

theorem holds_close (l : s.Locked) (h : (s.close tx).Holds other key) : s.Holds other key := by
  refine l.holds_iff.mpr ?_
  have h := h.mem
  unfold Store.close at h
  split at h
  · exact (List.mem_filter.mp h).1
  · exact h

end Locked

-- ---------------------------------------------------------------------------
-- Moves
-- ---------------------------------------------------------------------------

theorem acquire_held (h : (s.acquire tx key).Holds other k) :
    other = tx ∧ k = key ∨ s.Holds other k := by
  rw [Holds, acquire_holder?] at h
  split at h
  · next here => exact .inl ⟨(Option.some.inj h).symm, here⟩
  · exact .inr h

namespace Locked

theorem repool (l : s.Locked) (pool : Pool) : (s.repool pool).Locked := l.keep rfl fun _ h => h

theorem apply (l : s.Locked) (tx : TxId) (change : Change) : (s.apply tx change).Locked :=
  l.keep rfl fun other h => by
    rw [isOpen, apply_transaction?]
    split
    · next here =>
      subst here
      simpa [isOpen] using h
    · exact h

theorem moved (l : s.Locked) (m : Moved s a mark s' b)
    (opened : ∀ tx, a.tx = some tx → s.isOpen tx) : s'.Locked := by
  cases m with
  | locked _ free =>
    exact acquire (s := s.moveOn _) (l.keep rfl fun _ h => h) (opened _ rfl) free
  | granted free => exact l.acquire (opened _ rfl) free
  | won free => exact l.acquire (opened _ rfl) free
  | @did _ tx _ seqs change =>
    have moved : (s.moveOn seqs).Locked := l.keep rfl fun _ h => h
    exact moved.apply tx change
  | opened =>
    refine l.keep rfl fun tx h => ?_
    rw [isOpen, openNext_transaction?]
    split
    · rfl
    · exact h
  | published => exact (l.close _).keep rfl fun _ h => h
  | broke => exact (l.close _).keep rfl fun _ h => h
  | rolledBack => exact (l.close _).keep rfl fun _ h => h
  | _ => exact l.keep rfl fun _ h => h

/-- A move takes locks for the transaction of its task only. -/
theorem holds_before (l : s.Locked) (m : Moved s a mark s' b) (ne : a.tx ≠ some other)
    (h : s'.Holds other k) : s.Holds other k := by
  cases m with
  | locked => exact (acquire_held h).resolve_left fun h => ne (congrArg some h.1.symm)
  | granted => exact (acquire_held h).resolve_left fun h => ne (congrArg some h.1.symm)
  | won => exact (acquire_held h).resolve_left fun h => ne (congrArg some h.1.symm)
  | published => exact l.holds_close h
  | broke => exact l.holds_close h
  | rolledBack => exact l.holds_close h
  | _ => exact h

end Locked

-- ---------------------------------------------------------------------------
-- Systems
-- ---------------------------------------------------------------------------

def Process.awaits? (p : Process α) : Option RowKey :=
  match p.phase with
  | .locking key _ _ => some key
  | _ => none

def Stand.awaited? (a : Stand α) : Option RowKey := a.pending.bind (·.awaits)

theorem Process.stand_awaited? (p : Process α) : p.stand.awaited? = p.awaits? := by
  obtain ⟨tx, phase⟩ := p
  cases phase <;> rfl

/-- The lock that a task comes to wait for is not one that it has. -/
theorem Moved.unheld (m : Moved s a mark s' b) (htx : b.tx = some tx)
    (awaited : b.awaited? = some key) (before : a.tx = some tx → a.awaited? = some key →
      ¬s.Holds tx key) : ¬s'.Holds tx key := by
  cases m with
  | stays => exact before htx awaited
  | blocked walk unheld =>
    obtain rfl := Option.some.inj htx
    obtain rfl := Option.some.inj awaited
    exact unheld
  | _ => exact nomatch awaited

namespace System

variable {Name : Type} [DecidableEq Name] {Result : Name → Type} {sys sys' : System Result}

/-- Every lock has one holder, an open transaction, and no task waits for a lock that it holds. -/
structure Locked (sys : System Result) : Prop where
  store : sys.store.Locked
  awaited : ∀ name p, sys.tasks name = some p → ∀ tx key, p.tx = some tx →
    p.stand.awaited? = some key → ¬sys.store.Holds tx key

omit [DecidableEq Name] in
theorem Locked.start (connections : Nat) (programs : (name : Name) → Program (Result name)) :
    (start connections programs).Locked where
  store := .start connections
  awaited name p hp _ _ htx := by
    obtain rfl := Option.some.inj hp
    exact nomatch htx

theorem Locked.happened (t : sys.Tidy) (l : sys.Locked) (h : Happened sys sys') :
    sys'.Locked := by
  cases h with
  | @moved mark next name p p' task m =>
    have opened : ∀ tx, p.tx = some tx → sys.store.isOpen tx := fun tx htx =>
      t.opened ((txOf_eq task).trans htx)
    refine ⟨l.store.moved m opened, forall_took ?_ ?_⟩
    · exact fun tx key htx awaited => m.unheld htx awaited (l.awaited name p task tx key)
    · intro other q ne hq tx key htx awaited held
      have apart : p.tx ≠ some tx := fun h =>
        ne (t.apart ((txOf_eq hq).trans htx) ((txOf_eq task).trans h))
      exact l.awaited other q hq tx key htx awaited (l.store.holds_before m apart held)
  | @cancelled tx name p pool task htx =>
    have l' := l.store.repool pool
    refine ⟨l'.close tx, fun other q hq tx key htx awaited held => ?_⟩
    exact l.awaited other q (task_of_dropped hq).2 tx key htx awaited (l'.holds_close held)
  | left =>
    exact ⟨l.store.repool _, fun other q hq => l.awaited other q (task_of_dropped hq).2⟩
  | armed => exact ⟨l.store.keep rfl fun _ h => h, l.awaited⟩

def Awaits (sys : System Result) (tx : TxId) (key : RowKey) : Prop :=
  ∃ name p, sys.tasks name = some p ∧ p.tx = some tx ∧ p.awaits? = some key

omit [DecidableEq Name] in
theorem Locked.unheld (l : sys.Locked) (awaits : sys.Awaits tx key) : ¬sys.store.Holds tx key := by
  obtain ⟨name, p, task, htx, awaited⟩ := awaits
  exact l.awaited name p task tx key htx (p.stand_awaited?.trans awaited)

end System

end Passbook.Store
