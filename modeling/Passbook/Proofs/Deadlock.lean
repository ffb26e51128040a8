import Mathlib.Logic.Relation
import Passbook.Proofs.Ascending
import Passbook.Proofs.TransferSteps

/-!
# Transfers never deadlock

Any number of transfers, in whatever directions, and of queries on accounts run at once. A transfer
changes the balance of its lower account first, so that each of them takes the locks of accounts in
ascending order (`Errand.program_ascends`). A transaction that waits for an account thus holds only
lower ones, and nobody waits, through whatever others, for itself (`deadlockFree_run`).
-/

namespace Passbook

open Store Work

-- ---------------------------------------------------------------------------
-- Waiting for each other
-- ---------------------------------------------------------------------------

namespace Store.System

variable {Name : Type} {Result : Name → Type} {sys : System Result} {tx other : TxId}
  {before : RowKey → RowKey → Prop}

def WaitsFor (sys : System Result) (tx other : TxId) : Prop :=
  ∃ key, sys.Awaits tx key ∧ sys.store.Holds other key

/-- Along a chain of waiting transactions the locks ascend. -/
theorem Ascending.chain [IsTrans RowKey before] (l : sys.Locked) (a : sys.Ascending before)
    (h : Relation.TransGen sys.WaitsFor tx other) :
    ∃ key k, sys.Awaits tx key ∧ sys.store.Holds other k ∧ (key = k ∨ before key k) := by
  induction h with
  | single waits =>
    obtain ⟨key, awaits, holds⟩ := waits
    exact ⟨key, key, awaits, holds, .inl rfl⟩
  | tail _ waits ih =>
    obtain ⟨key, k, awaits, held, upto⟩ := ih
    obtain ⟨last, awaits', holds⟩ := waits
    have step : before k last := a.awaited l awaits' held
    refine ⟨key, last, awaits, holds, .inr ?_⟩
    rcases upto with rfl | less
    · exact step
    · exact IsTrans.trans _ _ _ less step

/-- Where locks are taken in a strict order, nobody waits for itself. -/
theorem Ascending.acyclic [IsStrictOrder RowKey before] (l : sys.Locked) (a : sys.Ascending before)
    (tx : TxId) : ¬Relation.TransGen sys.WaitsFor tx tx := by
  intro cycle
  obtain ⟨key, k, awaits, holds, upto⟩ := a.chain l cycle
  have back : before k key := a.awaited l awaits holds
  rcases upto with rfl | less
  · exact irrefl key back
  · exact irrefl key (IsTrans.trans _ _ _ less back)

end Store.System

-- ---------------------------------------------------------------------------
-- The order of accounts
-- ---------------------------------------------------------------------------

def Store.RowKey.Lower : RowKey → RowKey → Prop
  | .account a, .account b => a.value < b.value
  | _, _ => False

instance : IsStrictOrder RowKey RowKey.Lower where
  irrefl key h := by
    cases key with
    | account id => exact Int64.lt_irrefl h
    | _ => exact h
  trans a b c ab bc := by
    cases a <;> cases b <;> cases c <;> first | exact Int64.lt_trans ab bc | cases ab | cases bc

theorem OrderedPair.ofPair_ordered [LockKey α] (a b : α) :
    lockKey (ofPair a b).first = lockKey (ofPair a b).second ∨
      (lockKey (ofPair a b).first).value < (lockKey (ofPair a b).second).value := by
  unfold ofPair
  split
  case isTrue less => exact .inr less
  case isFalse notLess =>
    rcases Int64.lt_or_eq_of_le (Int64.not_lt.mp notLess) with less | same
    · exact .inr less
    · exact .inl (congrArg Id.mk same)

/-- A transfer takes the locks of its accounts in order. -/
theorem transferSteps_ascends (t : NewTransfer) :
    (transferSteps t).within.Ascends RowKey.Lower (fun _ _ => True) fun _ => False := by
  have failed : ∀ (held : RowKey → Prop) (e : Error), True := fun _ _ => trivial
  have ordered : RowKey.account t.ordered.1.accountId = .account t.ordered.2.accountId ∨
      RowKey.Lower (.account t.ordered.1.accountId) (.account t.ordered.2.accountId) := by
    rw [t.ordered_eq]
    exact (OrderedPair.ofPair_ordered (α := BalanceAdjustment) _ _).imp_left (congrArg _)
  rw [transferSteps_eq]
  refine .query failed (Plan.check_ascends (Plan.insert_ascends fun transfer => ?_))
  refine .query failed (Plan.insert_ascends fun debit => ?_)
  refine .query failed (Plan.insert_ascends fun credit => ?_)
  refine .query failed ⟨fun k hk => hk.elim, Plan.write_ascends fun first => ?_⟩
  refine .query failed ⟨fun k hk => ?_, Plan.write_ascends fun second => trivial⟩
  obtain rfl := hk.resolve_right id
  exact ordered

-- ---------------------------------------------------------------------------
-- Errands
-- ---------------------------------------------------------------------------

namespace Query

def isOnAccounts : Query → Bool
  | createAccount _ | getAccount _ | lockAccount _ | listAccounts _ | setBalance _
  | adjustBalance _ | deleteAccount _ => true
  | _ => false

/-- A query on accounts takes at most one lock. -/
theorem plan_ascends {q : Query} (h : q.isOnAccounts) :
    q.plan.Ascends RowKey.Lower (fun _ _ => True) fun _ => False := by
  have first : ∀ key k : RowKey, False → k = key ∨ RowKey.Lower k key := fun _ _ hk => hk.elim
  have done : ∀ row : q.Row, True := fun _ => trivial
  cases q with
  | createAccount account =>
    exact Plan.check_ascends fun id => ⟨first _, Plan.write_ascends done⟩
  | setBalance overwrite =>
    exact Plan.check_ascends ⟨first _, Plan.write_ascends done⟩
  | adjustBalance a => exact ⟨first _, Plan.write_ascends done⟩
  | lockAccount id => exact ⟨first _, Plan.read_ascends done⟩
  | getAccount id => exact Plan.read_ascends done
  | listAccounts page => exact Plan.read_ascends done
  | deleteAccount id => exact ⟨first _, Plan.write_ascends done⟩
  | _ => exact nomatch h

end Query

/-- What runs at the same time as transfers: other transfers, and single queries on accounts. -/
inductive Errand
  | transfer (t : NewTransfer)
  | query (q : Query) (onAccounts : q.isOnAccounts)

namespace Errand

abbrev Row : Errand → Type
  | transfer _ => Posting
  | query q _ => q.Row

def program : (errand : Errand) → Program (Except Error errand.Row)
  | transfer t => transferMoney t
  | query q _ => q.run

theorem program_ascends (errand : Errand) :
    errand.program.Ascends RowKey.Lower (fun _ _ => True) fun _ => False := by
  cases errand with
  | transfer t => exact runWorkflow_ascends _ (transferSteps_ascends t)
  | query q onAccounts => exact Query.run_ascends (Query.plan_ascends onAccounts)

end Errand

-- ---------------------------------------------------------------------------
-- Runs
-- ---------------------------------------------------------------------------

namespace Store.System

/-- Nobody waits for itself: not for a lock that it has, not through others. Who waits for an
account has locked only lower ones. -/
structure DeadlockFree {Name : Type} {Result : Name → Type} (sys : System Result) : Prop where
  unheld : ∀ {tx key}, sys.Awaits tx key → ¬sys.store.Holds tx key
  lower : ∀ {tx id other}, sys.Awaits tx (.account id) → sys.store.Holds tx (.account other) →
    other.value < id.value
  /-- Whoever waits for another is open, and so is the other. -/
  parties : ∀ {tx other}, sys.WaitsFor tx other → sys.store.isOpen tx ∧ sys.store.isOpen other
  acyclic : ∀ tx, ¬Relation.TransGen sys.WaitsFor tx tx

abbrev ErrandResult {Name : Type} (errands : Name → Errand) (name : Name) : Type :=
  Except Error (errands name).Row

/-- No rows, and a task for each errand before its first step. -/
abbrev ofErrands {Name : Type} (connections : Nat) (errands : Name → Errand) :
    System (ErrandResult errands) :=
  start connections fun name => (errands name).program

variable {Name : Type} [DecidableEq Name]

/-- However many transfers and queries on accounts run at once, in whatever order they take their
steps, and whatever fails or is dropped, no deadlock comes about. -/
theorem deadlockFree_run (connections : Nat) (errands : Name → Errand)
    (happenings : List (Happening Name)) :
    ((ofErrands connections errands).run happenings).DeadlockFree := by
  have t := tidy_run connections (fun name => (errands name).program) happenings
  obtain ⟨l, a⟩ : ((ofErrands connections errands).run happenings).Locked ∧
      ((ofErrands connections errands).run happenings).Ascending RowKey.Lower :=
    run_induction (motive := fun sys => sys.Locked ∧ sys.Ascending RowKey.Lower)
      ⟨.start .., .start _ fun name => (errands name).program_ascends⟩
      (fun _ _ t _ h happened => ⟨h.1.happened t happened, h.2.happened t h.1 happened⟩)
      happenings
  refine ⟨l.unheld, a.awaited l, fun {tx other} waits => ?_, a.acyclic l⟩
  obtain ⟨key, ⟨name, p, task, htx, -⟩, holds⟩ := waits
  exact ⟨t.opened ((txOf_eq task).trans htx), l.store.holder_isOpen holds⟩

end Store.System

end Passbook
