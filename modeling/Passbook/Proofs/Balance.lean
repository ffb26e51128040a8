import Passbook.Proofs.Replay
import Passbook.Proofs.TransferSteps

/-!
# Balances

A balance is never negative, and it is what the deeds on its account come to in whole numbers
(`balances_exact`): no sum has ever wrapped around. Both are shown for a serial run and hold for
every other, as each is a replay.
-/

namespace Passbook

open Store

-- ---------------------------------------------------------------------------
-- Sums of words
-- ---------------------------------------------------------------------------

theorem exactSum?_toInt {a b sum : Int64} (h : exactSum? a b = some sum) :
    sum.toInt = a.toInt + b.toInt := by
  simp only [exactSum?] at h
  split at h
  · next range =>
    obtain rfl := Option.some.inj h
    exact Int64.toInt_ofInt_of_le range.1 (Int.lt_of_le_of_lt range.2 (by decide))
  · exact nomatch h

/-- A balance that a change is not refused for is the exact sum, and not negative. -/
theorem Account.balanceAfter_ok {account : Account} {delta next : Int64}
    (h : account.balanceAfter delta = .ok next) :
    next.toInt = account.balance.toInt + delta.toInt ∧ 0 ≤ next.toInt := by
  unfold balanceAfter at h
  split at h
  · exact nomatch h
  · next sum hsum =>
    split at h
    · exact nomatch h
    · next nonneg =>
      obtain rfl := Except.ok.inj h
      exact ⟨exactSum?_toInt hsum, by simpa [Int64.lt_iff_toInt_lt] using nonneg⟩

theorem NewAccount.validate_ok {account : NewAccount} (h : account.validate = .ok ()) :
    0 ≤ account.balance.toInt := by
  unfold validate at h
  split at h
  · exact nomatch h
  · split at h
    · exact nomatch h
    · next nonneg => simpa [Int64.lt_iff_toInt_lt] using nonneg

namespace Store

-- ---------------------------------------------------------------------------
-- Exact balances
-- ---------------------------------------------------------------------------

/-- The balance of an account after one more deed, in whole numbers. -/
def Deed.balance (id : AccountId) (before : Option Int) : Deed → Option Int
  | ⟨.createAccount account, row, _⟩ => if row.id = id then some account.balance.toInt else before
  | ⟨.setBalance overwrite, _, _⟩ =>
    if overwrite.id = id then before.map fun _ => overwrite.balance.toInt else before
  | ⟨.adjustBalance a, _, _⟩ => if a.accountId = id then before.map (· + a.delta.toInt) else before
  | ⟨.deleteAccount deleted, _, _⟩ => if deleted = id then none else before
  | _ => before

/-- The balance of an account after some deeds, in whole numbers. -/
def exactBalance (deeds : List Deed) (id : AccountId) : Option Int :=
  deeds.foldl (Deed.balance id) none

/-- The accounts that are seen have these balances, and none is negative. -/
structure Exact (v : View) (balance : AccountId → Option Int) : Prop where
  keyed : v.Keyed
  exact : ∀ {id row}, v.account? id = some row →
    balance id = some row.balance.toInt ∧ 0 ≤ row.balance.toInt

theorem Exact.empty (now : Instant) : Exact (alone {} {} now) fun _ => none where
  keyed := ⟨.empty, .empty⟩
  exact h := nomatch h

theorem account?_apply {v : View} {row seen : Account} {id : AccountId}
    (h : (alone v.committed (v.own.apply (.account row)) now).account? id = some seen) :
    id = row.id ∧ seen = row ∨ id ≠ row.id ∧ v.account? id = some seen := by
  have h : (v.wrote row).account? id = some seen := h
  by_cases hid : id = row.id
  · subst hid
    have live := (View.account?_eq_some.mp h).1
    exact .inl ⟨rfl, Option.some.inj (h.symm.trans (View.wrote_self live))⟩
  · exact .inr ⟨hid, (View.wrote_other hid).symm.trans h⟩

/-- An account that is seen after a deletion was seen before and is another one. -/
theorem account?_delete {v : View} {row : Account} {deleted id : AccountId}
    (h : (alone v.committed (v.own.apply (.deleteAccount deleted)) now).account? id = some row) :
    deleted ≠ id ∧ v.account? id = some row := by
  obtain ⟨live, h⟩ := View.account?_eq_some.mp h
  have other : deleted ≠ id := fun he => live (he ▸ List.mem_cons_self)
  have live : id ∉ v.own.deleted := fun hd => live (List.mem_cons_of_mem _ hd)
  refine ⟨other, View.account?_eq_some.mpr ⟨live, ?_⟩⟩
  simpa [alone, Transaction.apply, Ne.symm other] using h

/-- A commit leaves the accounts as they were seen in it. -/
theorem account?_published (v : View) (id : AccountId) (now : Instant) :
    (alone v.published {} now).account? id = v.account? id :=
  v.publish_account? id

theorem Exact.write {v : View} {balance after : AccountId → Option Int} {row : Account}
    (e : Exact v balance) (keyed : (alone v.committed (v.own.apply (.account row)) now).Keyed)
    (here : after row.id = some row.balance.toInt ∧ 0 ≤ row.balance.toInt)
    (there : ∀ id, id ≠ row.id → after id = balance id) :
    Exact (alone v.committed (v.own.apply (.account row)) now) after where
  keyed := keyed
  exact {id seen} h := by
    rcases account?_apply h with ⟨rfl, rfl⟩ | ⟨hid, h⟩
    · exact here
    · rw [there id hid]
      exact e.exact h

/-- What is seen after a deed has the balances that come out in whole numbers. -/
theorem Exact.did {v : View} {balance : AccountId → Option Int} {q : Query} {row : q.Row}
    (e : Exact v balance) (did : q.Did v number row change) :
    Exact (alone v.committed (v.own.apply change) now) fun id =>
      Deed.balance id (balance id) ⟨q, row, instant⟩ := by
  have keyed : (alone v.committed (v.own.apply change) now).Keyed :=
    ⟨e.keyed.committed, e.keyed.own.apply change⟩
  cases did with
  | createAccount valid hr =>
    subst hr
    refine e.write keyed ⟨if_pos rfl, NewAccount.validate_ok valid⟩ fun id hid => ?_
    exact if_neg (Ne.symm hid)
  | setBalance nonneg ho hr =>
    subst hr
    have key := e.keyed.account ho
    refine e.write keyed ⟨?_, ?_⟩ fun id hid => if_neg (key ▸ Ne.symm hid)
    · simp [Deed.balance, key, (e.exact ho).1]
    · simpa [Int64.lt_iff_toInt_lt] using nonneg
  | adjustBalance ho hn hr =>
    subst hr
    have key := e.keyed.account ho
    obtain ⟨sum, nonneg⟩ := Account.balanceAfter_ok hn
    refine e.write keyed ⟨?_, nonneg⟩ fun id hid => if_neg (key ▸ Ne.symm hid)
    simp [Deed.balance, key, (e.exact ho).1, sum]
  | @deleteAccount deleted =>
    refine ⟨keyed, fun {id seen} h => ?_⟩
    obtain ⟨other, h⟩ := account?_delete h
    rw [show Deed.balance id (balance id) ⟨.deleteAccount deleted, (), instant⟩ = balance id from
      if_neg other]
    exact e.exact h
  | read reads =>
    refine ⟨keyed, fun {id seen} h => ?_⟩
    have before := e.exact h
    cases q <;> first | exact before | cases reads
  | _ => exact ⟨keyed, e.exact⟩

-- ---------------------------------------------------------------------------
-- Serial runs
-- ---------------------------------------------------------------------------

theorem Exact.published {v : View} (e : Exact v balance) (now : Instant) :
    Exact (alone v.published {} now) balance where
  keyed := ⟨e.keyed.published, .empty⟩
  exact {id _} h := e.exact ((account?_published v id now).symm.trans h)

theorem exactBalance_filter (before deeds : List Deed) :
    exactBalance (before ++ deeds.filter Deed.isReplayed) = exactBalance (before ++ deeds) := by
  funext id
  rw [exactBalance, exactBalance, List.foldl_append, List.foldl_append, List.foldl_filter]
  congr 1
  funext before d
  obtain ⟨q, row, now⟩ := d
  cases q <;> rfl

/-- The balances that are seen, at whatever time, are what these deeds come to. -/
def Tallied (committed : Tables) (own : Transaction) (deeds : List Deed) : Prop :=
  ∀ now, Exact (alone committed own now) (exactBalance deeds)

theorem Tallied.did {committed : Tables} {own : Transaction} {deeds : List Deed} {d : Deed}
    (e : Tallied committed own deeds)
    (did : d.query.Did (alone committed own d.now) number d.row change) :
    Tallied committed (own.apply change) (deeds ++ [d]) := by
  intro now
  have snoc : exactBalance (deeds ++ [d]) = fun id => d.balance id (exactBalance deeds id) :=
    funext fun id => List.foldl_append
  rw [snoc]
  exact (e d.now).did did

theorem Tallied.published {committed : Tables} {own : Transaction} {deeds : List Deed}
    (e : Tallied committed own deeds) :
    Tallied (committed.publish own.written own.deleted) {} deeds :=
  fun now => (e now).published now

-- ---------------------------------------------------------------------------
-- Systems
-- ---------------------------------------------------------------------------

/-- The balance of the row is in range and is what these deeds come to in whole numbers. -/
def Balanced (deeds : List Deed) (row : Account) : Prop :=
  0 ≤ row.balance.toInt ∧ row.balance.toInt ≤ Int64.maxValue.toInt ∧
    exactBalance deeds row.id = some row.balance.toInt

theorem Exact.balanced {v : View} {deeds : List Deed} {id : AccountId} {row : Account}
    (e : Exact v (exactBalance deeds)) (h : v.account? id = some row) : Balanced deeds row := by
  obtain ⟨exact, nonneg⟩ := e.exact h
  exact ⟨nonneg, row.balance.toInt_le, e.keyed.account h ▸ exact⟩

namespace System

variable {Name : Type} {Result : Name → Type} {sys : System Result}

theorem Replayed.exact (r : sys.Replayed) :
    Tallied sys.store.committed.core {} (deedsOf sys.history) := by
  have start : Tallied {} {} [] := Exact.empty
  have done := replay_induction Tallied.did Tallied.published .empty start r.committed
  rwa [Tallied, exactBalance_filter] at done

theorem Replayed.account_exact {id : AccountId} {row : Account} (r : sys.Replayed)
    (h : sys.store.committed.accounts.get? id = some row) :
    exactBalance (deedsOf sys.history) id = some row.balance.toInt ∧ 0 ≤ row.balance.toInt := by
  have seen : (alone sys.store.committed.core {} default).account? id = some row := h
  exact (r.exact default).exact seen

theorem Replayed.account_balance {id : AccountId} {row : Account} (r : sys.Replayed)
    (h : sys.store.committed.accounts.get? id = some row) :
    exactBalance (deedsOf sys.history) id = some row.balance.toInt :=
  (r.account_exact h).1

/-- The balances that an open transaction is shown are what the committed deeds and its own come
to. -/
theorem Replayed.exact_opened (r : sys.Replayed) (opened : sys.store.isOpen tx) (now : Instant) :
    Exact (alone sys.store.committed.core (sys.store.view tx now).own.core now)
      (exactBalance (deedsOf sys.history ++ sys.journals tx)) := by
  obtain ⟨own, hown⟩ := Option.isSome_iff_exists.mp opened
  have view : (sys.store.view tx now).own = own := ownOf_eq hown
  have done := redo_induction Tallied.did (r.exact now).keyed.committed .empty r.exact
    (r.opened hown sys.store.committed (.refl _))
  rw [Tallied, exactBalance_filter] at done
  exact view ▸ done now

/-- No balance is ever negative or wraps around, be it committed or shown in an open transaction,
in a list or on its own. The amounts that a transfer asks for are exact as well. -/
theorem balances_exact {Name : Type} [DecidableEq Name] {Result : Name → Type} (connections : Nat)
    (programs : (name : Name) → Program (Result name)) (happenings : List (Happening Name)) :
    let sys := (System.start connections programs).run happenings
    (∀ row ∈ sys.store.committed.accounts.values, Balanced (deedsOf sys.history) row) ∧
    (∀ tx now, sys.store.isOpen tx →
      (∀ id row, (sys.store.view tx now).account? id = some row →
        row.id = id ∧ Balanced (deedsOf sys.history ++ sys.journals tx) row) ∧
      ∀ keep, ∀ row ∈ (sys.store.view tx now).accounts keep,
        Balanced (deedsOf sys.history ++ sys.journals tx) row) ∧
    ∀ (t : NewTransfer) steps rest, (Work.transferSteps t).run.Trace steps rest →
      (∀ s ∈ steps, Possible (.inside s)) → ∀ s ∈ steps, t.Wants s.1 := by
  intro sys
  have r : sys.Replayed := replayed_run connections programs happenings
  have g : sys.Guarded := guarded_run connections programs happenings
  refine ⟨fun row h => ?_, fun tx now opened => ?_, fun t _ _ => (transferSteps_asks t).trace⟩
  · obtain ⟨id, h⟩ := Table.mem_values.mp h
    exact (r.exact default).balanced h
  · have shown : ∀ id row, (sys.store.view tx now).account? id = some row →
        row.id = id ∧ Balanced (deedsOf sys.history ++ sys.journals tx) row := fun id row h =>
      ⟨(g.store.keyed tx now).account h, (r.exact_opened opened now).balanced h⟩
    refine ⟨shown, fun keep row h => ?_⟩
    rw [(g.store.keyed tx now).accounts] at h
    obtain ⟨id, h⟩ := Table.mem_values.mp h
    rw [Table.get?_filter] at h
    obtain ⟨h, -⟩ := Option.filter_eq_some_iff.mp h
    exact (shown id row ((View.publish_account? id).symm.trans h)).2

end System

end Store

end Passbook
