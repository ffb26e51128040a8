import Passbook.Proofs.Advance
import Passbook.Proofs.Pool

/-!
# What the steps of a store leave alone

Each function that changes a store, read off at the three things that matter to a transaction: the
committed rows, what a transaction has written, and which locks it holds. What one transaction
does leaves the rows and the locks of the others as they are.
-/

namespace Passbook.Store

variable {s : Store} {tx other : TxId}

-- ---------------------------------------------------------------------------
-- Associations
-- ---------------------------------------------------------------------------

theorem lookup_cons_ite [DecidableEq κ] (key k : κ) (value : ν) (rest : List (κ × ν)) :
    ((k, value) :: rest).lookup key = if key = k then some value else rest.lookup key := by
  by_cases h : key = k
  · simp [h]
  · rw [List.lookup_cons, beq_false_of_ne h, if_neg h]

theorem lookup_map_snd (change : TxId → ν → ν) (rows : List (TxId × ν)) (tx : TxId) :
    (rows.map fun (id, t) => (id, change id t)).lookup tx = (rows.lookup tx).map (change tx) := by
  induction rows with
  | nil => rfl
  | cons row rest ih =>
    obtain ⟨id, t⟩ := row
    rw [List.map_cons, lookup_cons_ite, lookup_cons_ite, ih]
    by_cases h : tx = id <;> simp [h]

theorem lookup_filter_key (rows : List (TxId × ν)) (tx other : TxId) :
    (rows.filter (·.1 ≠ tx)).lookup other = if other = tx then none else rows.lookup other := by
  induction rows with
  | nil => simp
  | cons row rest ih =>
    obtain ⟨id, t⟩ := row
    by_cases hid : id = tx
    · rw [List.filter_cons_of_neg (by simp [hid]), ih, lookup_cons_ite]
      by_cases h : other = tx <;> simp [h, hid]
    · rw [List.filter_cons_of_pos (by simp [hid]), lookup_cons_ite, lookup_cons_ite, ih]
      by_cases h : other = id <;> simp [h, hid]

theorem lookup_filter_value {rows : List (RowKey × TxId)} (h : rows.lookup key = some other)
    (ne : other ≠ tx) : (rows.filter (·.2 ≠ tx)).lookup key = some other := by
  induction rows with
  | nil => exact h
  | cons row rest ih =>
    obtain ⟨k, holder⟩ := row
    rw [lookup_cons_ite] at h
    by_cases hk : key = k
    · obtain rfl : holder = other := by simpa [hk] using h
      rw [List.filter_cons_of_pos (by simp [ne]), lookup_cons_ite, if_pos hk]
    · have hrest := ih (by simpa [hk] using h)
      by_cases hh : holder = tx
      · rw [List.filter_cons_of_neg (by simp [hh]), hrest]
      · rw [List.filter_cons_of_pos (by simp [hh]), lookup_cons_ite, if_neg hk, hrest]

-- ---------------------------------------------------------------------------
-- Locks
-- ---------------------------------------------------------------------------

theorem Holds.unique (h : s.Holds tx key) (h' : s.Holds other key) : tx = other :=
  Option.some.inj (h.symm.trans h')

theorem acquire_holder? (s : Store) (tx : TxId) (key k : RowKey) :
    (s.acquire tx key).holder? k = if k = key then some tx else s.holder? k := by
  exact lookup_cons_ite ..

theorem acquire_holds : (s.acquire tx key).Holds tx k ↔ k = key ∨ s.Holds tx k := by
  unfold Holds
  rw [acquire_holder?]
  by_cases h : k = key <;> simp [h]

theorem Holds.acquire (h : s.Holds tx k) (free : s.holder? key = none ∨ s.Holds other key)
    (ne : tx ≠ other) : (s.acquire other key).Holds tx k := by
  have hk : k ≠ key := by
    rintro rfl
    rcases free with free | held
    · exact nomatch free.symm.trans h
    · exact ne (h.unique held)
  rw [Holds, acquire_holder?, if_neg hk]
  exact h

-- ---------------------------------------------------------------------------
-- Rows that are written
-- ---------------------------------------------------------------------------

@[simp] theorem moveOn_transaction? (seqs : Sequences) :
    (s.moveOn seqs).transaction? tx = s.transaction? tx := rfl

theorem apply_transaction? (s : Store) (tx : TxId) (change : Change) (other : TxId) :
    (s.apply tx change).transaction? other =
      if other = tx then (s.transaction? tx).map (·.apply change) else s.transaction? other := by
  have h := lookup_map_snd (fun id t => if id = tx then t.apply change else t) s.transactions other
  by_cases ho : other = tx
  · subst ho
    simpa [transaction?, apply] using h
  · simpa [transaction?, apply, ho] using h

@[simp] theorem apply_committed (s : Store) (tx : TxId) (change : Change) :
    (s.apply tx change).committed = s.committed := rfl

@[simp] theorem apply_sequences (s : Store) (tx : TxId) (change : Change) :
    (s.apply tx change).sequences = s.sequences := rfl

@[simp] theorem apply_nextTx (s : Store) (tx : TxId) (change : Change) :
    (s.apply tx change).nextTx = s.nextTx := rfl

-- ---------------------------------------------------------------------------
-- Beginnings and ends
-- ---------------------------------------------------------------------------

theorem not_isOpen (none : s.transactions = []) (tx : TxId) : ¬s.isOpen tx := by
  rw [isOpen, transaction?, none]
  exact Bool.false_ne_true

/-- The store with these connections. -/
def repool (s : Store) (pool : Pool) : Store := { s with pool }

@[simp] theorem repool_transaction? (pool : Pool) :
    (s.repool pool).transaction? tx = s.transaction? tx := rfl

@[simp] theorem repool_committed (pool : Pool) : (s.repool pool).committed = s.committed := rfl

theorem openNext_transaction? (s : Store) (other : TxId) :
    s.openNext.transaction? other = if other = s.nextTx then some {} else s.transaction? other :=
  lookup_cons_ite ..

/-- A transaction begins where a connection is idle and the server can be reached. -/
theorem begin_of_idle (idle : 0 < s.idle) (reached : s.faults.begin = false) : ∃ pool,
    s.pool.take? = some pool ∧ s.begin = ((s.repool pool).openNext, .opened s.nextTx) := by
  cases taken : s.pool.take? with
  | none => exact absurd (Pool.take?_eq_none.mp taken) (Nat.ne_of_gt idle)
  | some pool =>
    refine ⟨pool, rfl, ?_⟩
    rw [Store.begin, if_neg (by simp [reached]), connect, taken]
    rfl

theorem close_transaction? (s : Store) (tx other : TxId) :
    (s.close tx).transaction? other = if other = tx then none else s.transaction? other := by
  unfold close
  split
  case isTrue => exact lookup_filter_key s.transactions tx other
  case isFalse h =>
    split
    case isTrue ho =>
      subst ho
      simpa [isOpen] using h
    case isFalse => rfl

theorem not_isOpen_close (s : Store) (tx : TxId) : ¬(s.close tx).isOpen tx := by
  rw [isOpen, close_transaction?, if_pos rfl]
  exact Bool.false_ne_true

/-- Only the transaction that is closed is open no longer. -/
theorem eq_of_closed (opened : s.isOpen tx) (ended : ¬(s.close other).isOpen tx) : other = tx := by
  by_contra ne
  rw [isOpen, close_transaction?, if_neg (Ne.symm ne)] at ended
  exact ended opened

theorem close_pool (opened : s.isOpen tx) : (s.close tx).pool = s.pool.giveBack := by
  rw [close, if_pos opened]

theorem Holds.close (h : s.Holds other key) (ne : other ≠ tx) : (s.close tx).Holds other key := by
  unfold Store.close
  split
  · exact lookup_filter_value h ne
  · exact h

@[simp] theorem close_committed (s : Store) (tx : TxId) :
    (s.close tx).committed = s.committed := by
  unfold close
  split <;> rfl

@[simp] theorem close_sequences (s : Store) (tx : TxId) :
    (s.close tx).sequences = s.sequences := by
  unfold close
  split <;> rfl

@[simp] theorem close_nextTx (s : Store) (tx : TxId) : (s.close tx).nextTx = s.nextTx := by
  unfold close
  split <;> rfl

end Passbook.Store
