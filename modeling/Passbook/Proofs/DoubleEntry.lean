import Passbook.Proofs.Reconcile
import Passbook.Proofs.References

/-!
# Double entry

Clients open accounts, delete them and move money between them, all at once and in any order, and
any of them may fail or be dropped. After every commit the books are right (`doubleEntry_run`):
balances are what the entries say, every transfer has its two entries, their accounts are there, and
money is neither made nor lost.

Entries are written without a lock. It is the later changes of the balances that lock the accounts,
so an account that is about to be deleted cannot be named by another transaction that commits
(`Consistent`).
-/

namespace Passbook

open Store

-- ---------------------------------------------------------------------------
-- Accounts that jobs name
-- ---------------------------------------------------------------------------

/-- A job that names an account changes its balance as well, and deletes nothing. -/
theorem Job.names_adjusts {job : Job} {id : AccountId} {q : Query} (h : q ∈ job.queries)
    (names : q.Names id) : (∃ a, .adjustBalance a ∈ job.queries ∧ a.accountId = id) ∧
      ∀ deleted, .deleteAccount deleted ∉ job.queries := by
  cases job with
  | create account =>
    obtain rfl := List.mem_singleton.mp h
    exact names.elim
  | delete deleted =>
    obtain rfl := List.mem_singleton.mp h
    exact names.elim
  | transfer t =>
    have named : id = t.fromAccountId ∨ id = t.toAccountId := by
      simp only [queries, NewTransfer.queries, List.mem_cons, List.not_mem_nil, or_false] at h
      rcases h with rfl | rfl | rfl | rfl | rfl
      · exact names.imp Eq.symm Eq.symm
      · exact .inl (Eq.symm names)
      · exact .inr (Eq.symm names)
      · exact names.elim
      · exact names.elim
    refine ⟨?_, fun deleted => by simp [queries, NewTransfer.queries]⟩
    have changes : ∃ a, (a = t.changes.first ∨ a = t.changes.second) ∧ a.accountId = id := by
      rcases t.changes_eq with changes | changes <;> rw [changes] <;> rcases named with rfl | rfl
      · exact ⟨_, .inl rfl, rfl⟩
      · exact ⟨_, .inr rfl, rfl⟩
      · exact ⟨_, .inr rfl, rfl⟩
      · exact ⟨_, .inl rfl, rfl⟩
    obtain ⟨a, ha, here⟩ := changes
    exact ⟨a, by rcases ha with rfl | rfl <;> simp [queries, NewTransfer.queries], here⟩

namespace Store

-- ---------------------------------------------------------------------------
-- Systems of jobs
-- ---------------------------------------------------------------------------

namespace System

section
variable {Name : Type} [DecidableEq Name] {Result : Name → Type} {sys sys' : System Result}

/-- The books are right: balances and entries agree, accounts that are named are there, and an
account that an open transaction deletes is not named. -/
structure Consistent (sys : System Result) : Prop where
  reconciled : Reconciled (deedsOf sys.history)
  named : ∀ {id}, sys.store.committed.Names id → (sys.store.committed.accounts.get? id).isSome
  unnamed : ∀ {tx id}, sys.store.isOpen tx →
    .deleteAccount id ∈ (sys.journals tx).map Deed.query → ¬sys.store.committed.Names id

omit [DecidableEq Name] in
theorem Consistent.start (connections : Nat) (programs : (name : Name) → Program (Result name)) :
    (start connections programs).Consistent where
  reconciled := .empty
  named names := absurd names names_empty
  unnamed h := nomatch h

omit [DecidableEq Name] in
/-- An account that a whole job names is there once the job is committed: the job has changed its
balance. -/
theorem Booked.names_there {job : Job} {q : Query} {id : AccountId} {own : Transaction}
    (b : sys.Booked) (opened : sys.store.transaction? tx = some own)
    (queries : (sys.journals tx).map Deed.query = job.queries)
    (hq : q ∈ (sys.journals tx).map Deed.query) (names : q.Names id) :
    ((sys.store.view tx default).published.accounts.get? id).isSome := by
  have j := b.opened opened
  have view : (sys.store.view tx default).own = own := ownOf_eq opened
  obtain ⟨⟨a, ha, rfl⟩, live⟩ := Job.names_adjusts (queries ▸ hq) names
  rw [← queries] at ha live
  have kept : a.accountId ∉ own.deleted := fun hd => live _ (j.deleted _ hd)
  have there := (j.changed a ha).resolve_left kept
  exact account_published (.inl (view ▸ there)) (view ▸ kept)

end

section
variable {Name : Type} [DecidableEq Name] {jobs : Name → Job} {sys sys' : System (JobResult jobs)}

/-- A job that names an account locks it as well. -/
theorem Follows.anchored (f : sys.Follows fun name => (jobs name).program) (id : AccountId) :
    Anchored sys.history id := by
  rintro c hc ⟨d, hd, names⟩
  have queries := f.history_queries c hc
  obtain ⟨⟨a, ha, rfl⟩, -⟩ := Job.names_adjusts (queries ▸ List.mem_map_of_mem hd) names
  rw [← queries] at ha
  obtain ⟨d, hd, query⟩ := List.mem_map.mp ha
  exact ⟨d, hd, query ▸ List.mem_singleton_self _⟩

theorem Consistent.happened (t : sys.Tidy) (g : sys.Guarded) (l : sys.Linked) (c : sys.Consistent)
    (h : Happened sys sys') (replayed : sys'.Replayed)
    (follows : sys'.Follows fun name => (jobs name).program)
    (distinct : (numbersOf (deedsOf sys'.history)).Nodup) : sys'.Consistent := by
  have intact : ∀ id, sys'.Intact id := fun id =>
    Intact.happened t g l ⟨c.named, c.unnamed⟩ h (follows.anchored id)
  refine ⟨?_, (intact _).named, (intact _).unnamed⟩
  cases recorded h with
  | same committed history => exact history ▸ c.reconciled
  | @commit name tx own author opened closed committed history =>
    have j := l.booked.opened opened
    have queries : (sys.journals tx).map Deed.query = (jobs name).queries :=
      follows.history_queries ⟨name, tx, sys.journals tx⟩ (by simp [history])
    rw [history, deedsOf_snoc] at distinct ⊢
    refine c.reconciled.job queries j.done distinct fun e he => ?_
    obtain ⟨q, hq, names⟩ := entriesOf_names j.done he
    have there := l.booked.names_there opened queries hq names
    rw [view_published opened default, ← committed] at there
    obtain ⟨row, hrow⟩ := Option.isSome_iff_exists.mp there
    have balance := replayed.account_balance hrow
    rw [history, deedsOf_snoc] at balance
    exact Option.isSome_iff_exists.mpr ⟨_, balance⟩

structure Accounted (sys : System (JobResult jobs)) : Prop where
  replayed : sys.Replayed
  follows : sys.Follows fun name => (jobs name).program
  booked : sys.Booked
  numbered : sys.Numbered
  filed : sys.Filed
  consistent : sys.Enough → sys.Consistent

theorem Accounted.happened (t : sys.Tidy) (g : sys.Guarded) (l : sys.Linked) (a : sys.Accounted)
    (h : Happened sys sys') : sys'.Accounted where
  replayed := a.replayed.happened t g h
  follows := a.follows.happened t g h
  booked := a.booked.happened t g h
  numbered := a.numbered.happened t h
  filed := a.filed.happened t g h
  consistent enough := (a.consistent (enough.before h)).happened t g l h
    (a.replayed.happened t g h) (a.follows.happened t g h)
    (nodup_numbers (a.numbered.happened t h) (a.filed.happened t g h) enough)

theorem accounted_run (connections : Nat) (jobs : Name → Job) (happenings : List (Happening Name)) :
    ((ofJobs connections jobs).run happenings).Accounted := by
  have linked : (ofJobs connections jobs).Linked := ⟨.start .., fun h => nomatch h⟩
  have accounted : (ofJobs connections jobs).Accounted :=
    ⟨.start .., Follows.start _, .start .., .start .., .start .., fun _ => .start ..⟩
  exact (run_induction (motive := fun sys => sys.Linked ∧ sys.Accounted) ⟨linked, accounted⟩
    (fun _ _ t g h happened => ⟨h.1.happened t g happened, h.2.happened t g h.1 happened⟩)
    happenings).2

end

end System

-- ---------------------------------------------------------------------------
-- Sums
-- ---------------------------------------------------------------------------

theorem entrySum_eq (t : Tables) (id : AccountId) :
    t.entrySum id = amountOn id t.entries.values := by
  rw [Tables.entrySum, amountOn, List.sum_eq_foldl, List.foldl_map]

theorem totalBalance_eq (t : Tables) :
    t.totalBalance = (t.accounts.values.map (·.balance.toInt)).sum := by
  rw [Tables.totalBalance, List.sum_eq_foldl, List.foldl_map]

theorem amountOn_perm {entries entries' : List Entry} (h : entries.Perm entries')
    (id : AccountId) : amountOn id entries = amountOn id entries' :=
  ((h.filter _).map _).sum_eq

theorem amountOn_cons (id : AccountId) (e : Entry) (rest : List Entry) :
    amountOn id (e :: rest) =
      (if id = e.accountId then e.amount.toInt else 0) + amountOn id rest := by
  by_cases h : id = e.accountId <;> simp [amountOn, h, eq_comm]

/-- Account by account, all entries are added up once. -/
theorem sum_amountOn {ids : List AccountId} {entries : List Entry} (distinct : ids.Nodup)
    (covered : ∀ e ∈ entries, e.accountId ∈ ids) :
    (ids.map fun id => amountOn id entries).sum = (entries.map (·.amount.toInt)).sum := by
  induction entries with
  | nil => simp [amountOn]
  | cons e rest ih =>
    have here : ids.count e.accountId = 1 :=
      List.count_eq_one_of_mem distinct (covered e List.mem_cons_self)
    have there := ih fun e he => covered e (List.mem_cons_of_mem _ he)
    simp only [amountOn_cons]
    rw [List.sum_map_add, List.sum_map_ite_eq, here, there]
    simp

theorem sum_legs (transfers : List Transfer) :
    ((transfers.flatMap Transfer.legs).map Prod.snd).sum = 0 := by
  induction transfers with
  | nil => rfl
  | cons t rest ih => simp [Transfer.legs, List.flatMap_cons, ih]

theorem nodup_ids {t : Tables} (keyed : t.Keyed) : (t.accounts.values.map (·.id)).Nodup :=
  Table.nodup_values keyed.accounts

-- ---------------------------------------------------------------------------
-- The books
-- ---------------------------------------------------------------------------

/-- The books are right, for accounts that were opened with these balances. -/
structure DoubleEntry (t : Tables) (opening : AccountId → Option Int) : Prop where
  /-- A balance is what the account was opened with and what the entries on it add up to. -/
  balance : ∀ {id row}, t.accounts.get? id = some row →
    ∃ amount, opening id = some amount ∧ row.balance.toInt = amount + t.entrySum id
  /-- The entries are those of the transfers, two for each. -/
  legs : (t.entries.values.map Entry.leg).Perm (t.transfers.values.flatMap Transfer.legs)
  /-- The account of every entry is there. -/
  entries : ∀ e ∈ t.entries.values, (t.accounts.get? e.accountId).isSome
  /-- Both accounts of every transfer are there. -/
  transfers : ∀ row ∈ t.transfers.values, (t.accounts.get? row.fromAccountId).isSome ∧
    (t.accounts.get? row.toAccountId).isSome
  /-- All balances add up to what the accounts were opened with. -/
  total : t.totalBalance = (t.accounts.values.map fun row => (opening row.id).getD 0).sum

theorem DoubleEntry.of_balance {t : Tables} {opening : AccountId → Option Int} (keyed : t.Keyed)
    (balance : ∀ {id row}, t.accounts.get? id = some row →
      ∃ amount, opening id = some amount ∧ row.balance.toInt = amount + t.entrySum id)
    (legs : (t.entries.values.map Entry.leg).Perm (t.transfers.values.flatMap Transfer.legs))
    (named : ∀ {id}, t.Names id → (t.accounts.get? id).isSome) : DoubleEntry t opening where
  balance := balance
  legs := legs
  entries e he := named (.inl ⟨e, he, rfl⟩)
  transfers row hrow := ⟨named (.inr ⟨row, hrow, .inl rfl⟩), named (.inr ⟨row, hrow, .inr rfl⟩)⟩
  total := by
    have each : ∀ row ∈ t.accounts.values,
        row.balance.toInt = (opening row.id).getD 0 + amountOn row.id t.entries.values := by
      intro row hrow
      obtain ⟨id, hrow⟩ := Table.mem_values.mp hrow
      obtain rfl := keyed.accounts hrow
      obtain ⟨amount, hopening, hbalance⟩ := balance hrow
      rw [hopening, hbalance, entrySum_eq, Option.getD_some]
    have covered : ∀ e ∈ t.entries.values, e.accountId ∈ t.accounts.values.map (·.id) := by
      intro e he
      obtain ⟨row, hrow⟩ := Option.isSome_iff_exists.mp (named (.inl ⟨e, he, rfl⟩))
      exact List.mem_map.mpr
        ⟨row, Table.mem_values.mpr ⟨_, hrow⟩, keyed.accounts hrow⟩
    have entries : (t.entries.values.map (·.amount.toInt)).sum = 0 := by
      have sums := (legs.map Prod.snd).sum_eq
      rw [sum_legs, List.map_map] at sums
      exact sums
    calc t.totalBalance
        = (t.accounts.values.map (·.balance.toInt)).sum := totalBalance_eq t
      _ = (t.accounts.values.map fun row =>
            (opening row.id).getD 0 + amountOn row.id t.entries.values).sum := by
          rw [List.map_congr_left each]
      _ = (t.accounts.values.map fun row => (opening row.id).getD 0).sum +
            ((t.accounts.values.map (·.id)).map fun id => amountOn id t.entries.values).sum := by
          rw [List.sum_map_add, List.map_map]
          rfl
      _ = (t.accounts.values.map fun row => (opening row.id).getD 0).sum := by
          rw [sum_amountOn (nodup_ids keyed) covered, entries, Int.add_zero]

namespace System

variable {Name : Type} [DecidableEq Name]

/-- Whatever clients do at once, and whatever fails or is dropped, the committed books are right.
Only a sequence that has come round to its start could break them, since a new row would then be
written over an old one; no run of `2 ^ 64` happenings or fewer gets there (`enough_run`). -/
theorem doubleEntry_run (connections : Nat) (jobs : Name → Job)
    (happenings : List (Happening Name)) :
    let sys := (ofJobs connections jobs).run happenings
    sys.Enough → DoubleEntry sys.store.committed (openingBalance (deedsOf sys.history)) := by
  intro sys enough
  have a : sys.Accounted := accounted_run connections jobs happenings
  have g : sys.Guarded := guarded_run connections _ happenings
  have c := a.consistent enough
  have distinct := nodup_numbers a.numbered a.filed enough
  have entries : sys.store.committed.entries.values.Perm (entriesOf (deedsOf sys.history)) := by
    rw [a.booked.entries]
    exact Table.values_ofRows (nodup_made entry_number distinct)
  have transfers :
      sys.store.committed.transfers.values.Perm (transfersOf (deedsOf sys.history)) := by
    rw [a.booked.transfers]
    exact Table.values_ofRows (nodup_made transfer_number distinct)
  refine .of_balance g.store.committed (fun {id row} h => ?_) ?_ c.named
  · obtain ⟨amount, hopening, hbalance⟩ :=
      c.reconciled.balances (a.replayed.account_balance h)
    exact ⟨amount, hopening, by rw [hbalance, entrySum_eq, amountOn_perm entries]⟩
  · exact ((entries.map _).trans c.reconciled.legs).trans (transfers.flatMap_right _).symm

/-- Two accounts are opened, and then money is moved between them in both directions. -/
def crossing : Fin 4 → Job
  | 0 => .create ⟨"alice", 100, .usd⟩
  | 1 => .create ⟨"bob", 50, .usd⟩
  | 2 => .transfer ⟨⟨1⟩, ⟨2⟩, 30⟩
  | 3 => .transfer ⟨⟨2⟩, ⟨1⟩, 10⟩

/-- Tasks take their steps in turns, and get the locks that they wait for once these are free. -/
def turns (count : Nat) (names : List (Fin 4)) : List (Happening (Fin 4)) :=
  (List.replicate count names).flatten.flatMap fun name =>
    [.move name (.step default), .move name .grant]

/-- The accounts are opened one after the other, and both transfers run at once. -/
def crossingRun : List (Happening (Fin 4)) := turns 8 [0] ++ turns 8 [1] ++ turns 20 [2, 3]

theorem doubleEntry_crossing :
    let sys := (ofJobs 2 crossing).run crossingRun
    sys.Enough ∧ sys.store.committed.accounts.values.map (·.balance) = [80, 70] ∧
      DoubleEntry sys.store.committed (openingBalance (deedsOf sys.history)) :=
  have enough := enough_run 2 _ (by decide +kernel)
  ⟨enough, by decide +kernel, doubleEntry_run 2 crossing crossingRun enough⟩

end System

end Store

end Passbook
