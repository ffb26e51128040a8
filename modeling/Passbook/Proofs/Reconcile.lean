import Mathlib.Algebra.BigOperators.Group.List.Basic
import Mathlib.Algebra.Ring.Int.Defs
import Passbook.Proofs.Balance
import Passbook.Proofs.Jobs
import Passbook.Proofs.Journal
import Passbook.Proofs.Numbering

/-!
# Balances and entries

What the deeds of jobs come to: a balance is what the account was opened with and what the entries
on it add up to, and every transfer has its two entries (`Reconciled`). One more job keeps this
(`Reconciled.job`).
-/

namespace Passbook

open Store

-- ---------------------------------------------------------------------------
-- Legs
-- ---------------------------------------------------------------------------

def Entry.leg (e : Entry) : AccountId × Int := (e.accountId, e.amount.toInt)

/-- What the two entries of a transfer have to be. -/
def Transfer.legs (t : Transfer) : List (AccountId × Int) :=
  [(t.fromAccountId, -t.amount.toInt), (t.toAccountId, t.amount.toInt)]

namespace Store

/-- What the entries on an account add up to. -/
def amountOn (id : AccountId) (entries : List Entry) : Int :=
  ((entries.filter (·.accountId = id)).map (·.amount.toInt)).sum

theorem amountOn_append (id : AccountId) (first rest : List Entry) :
    amountOn id (first ++ rest) = amountOn id first + amountOn id rest := by
  simp [amountOn]

theorem amountOn_pair (id : AccountId) (a b : Entry) : amountOn id [a, b] =
    (if a.accountId = id then a.amount.toInt else 0) +
      if b.accountId = id then b.amount.toInt else 0 := by
  by_cases ha : a.accountId = id <;> by_cases hb : b.accountId = id <;> simp [amountOn, ha, hb]

/-- The balance that an account was opened with, after one more deed. -/
def Deed.opening (id : AccountId) (before : Option Int) : Deed → Option Int
  | ⟨.createAccount account, row, _⟩ => if row.id = id then some account.balance.toInt else before
  | _ => before

def openingBalance (deeds : List Deed) (id : AccountId) : Option Int :=
  deeds.foldl (Deed.opening id) none

-- ---------------------------------------------------------------------------
-- What jobs do
-- ---------------------------------------------------------------------------

theorem map_query_cons {deeds : List Deed} {q : Query} {rest : List Query}
    (h : deeds.map Deed.query = q :: rest) : ∃ (row : q.Row) (now : Instant) (more : List Deed),
      deeds = ⟨q, row, now⟩ :: more ∧ more.map Deed.query = rest := by
  obtain ⟨⟨_, row, now⟩, more, rfl, rfl, hrest⟩ := List.map_eq_cons_iff.mp h
  exact ⟨row, now, more, rfl, hrest⟩

theorem balance_adjust (id : AccountId) (before : Option Int) (a : BalanceAdjustment)
    (row : Account) (now : Instant) : Deed.balance id before ⟨.adjustBalance a, row, now⟩ =
      before.map (· + if a.accountId = id then a.delta.toInt else 0) := by
  by_cases h : a.accountId = id <;> cases before <;> simp [Deed.balance, h]

theorem transfer_deeds {t : NewTransfer} {deeds : List Deed}
    (queries : deeds.map Deed.query = t.queries) (done : ∀ d ∈ deeds, d.Done) :
    (∀ id before, deeds.foldl (Deed.balance id) before =
      before.map (· + amountOn id (entriesOf deeds))) ∧
    (∀ id before, deeds.foldl (Deed.opening id) before = before) ∧
    (entriesOf deeds).map Entry.leg = (transfersOf deeds).flatMap Transfer.legs := by
  obtain ⟨transfer, _, _, rfl, entries⟩ := map_query_cons queries
  obtain ⟨source, _, _, rfl, toEntry⟩ := map_query_cons entries
  obtain ⟨target, _, _, rfl, changes⟩ := map_query_cons toEntry
  obtain ⟨first, now, _, rfl, change⟩ := map_query_cons changes
  obtain ⟨second, later, _, rfl, rest⟩ := map_query_cons change
  obtain rfl := List.map_eq_nil_iff.mp rest
  obtain ⟨positive, tFrom, tTo, tAmount⟩ := transfer_done (done _ List.mem_cons_self)
  obtain ⟨sId, sAmount⟩ := entry_done (done _ (List.mem_cons_of_mem _ List.mem_cons_self))
  obtain ⟨cId, cAmount⟩ :=
    entry_done (done _ (List.mem_cons_of_mem _ (List.mem_cons_of_mem _ List.mem_cons_self)))
  have neg := neg_toInt positive
  refine ⟨fun id before => ?_, fun id before => rfl, ?_⟩
  · have entries : amountOn id [source, target] =
        (if t.fromAccountId = id then -t.amount.toInt else 0) +
          if t.toAccountId = id then t.amount.toInt else 0 := by
      rw [amountOn_pair, sId, sAmount, cId, cAmount, neg]
    show Deed.balance id (Deed.balance id before ⟨.adjustBalance t.changes.first, first, now⟩)
        ⟨.adjustBalance t.changes.second, second, later⟩ =
      before.map (· + amountOn id [source, target])
    rw [entries, balance_adjust, balance_adjust, Option.map_map]
    -- The order of the changes does not matter for their sum.
    rcases t.changes_eq with changes | changes <;> rw [changes] <;> congr 1 <;> funext b <;>
      simp only [Function.comp_apply, neg] <;> omega
  · show [source.leg, target.leg] = transfer.legs
    rw [Entry.leg, Entry.leg, Transfer.legs, sId, sAmount, cId, cAmount, neg, tFrom, tTo, tAmount]

-- ---------------------------------------------------------------------------
-- Job after job
-- ---------------------------------------------------------------------------

/-- Balances are what the accounts were opened with and what the entries on them add up to. There
are entries on accounts that were opened only, and they are the entries of the transfers. -/
structure Reconciled (deeds : List Deed) : Prop where
  balances : ∀ {id balance}, exactBalance deeds id = some balance → ∃ opening,
    openingBalance deeds id = some opening ∧ balance = opening + amountOn id (entriesOf deeds)
  opened : ∀ e ∈ entriesOf deeds, (openingBalance deeds e.accountId).isSome
  legs : ((entriesOf deeds).map Entry.leg).Perm ((transfersOf deeds).flatMap Transfer.legs)

theorem Reconciled.empty : Reconciled [] where
  balances h := nomatch h
  opened _ h := nomatch h
  legs := .refl _

theorem exactBalance_append (deeds more : List Deed) (id : AccountId) :
    exactBalance (deeds ++ more) id = more.foldl (Deed.balance id) (exactBalance deeds id) :=
  List.foldl_append

theorem openingBalance_append (deeds more : List Deed) (id : AccountId) :
    openingBalance (deeds ++ more) id = more.foldl (Deed.opening id) (openingBalance deeds id) :=
  List.foldl_append

theorem exactBalance_snoc (deeds : List Deed) (d : Deed) (id : AccountId) :
    exactBalance (deeds ++ [d]) id = d.balance id (exactBalance deeds id) :=
  exactBalance_append deeds [d] id

theorem openingBalance_snoc (deeds : List Deed) (d : Deed) (id : AccountId) :
    openingBalance (deeds ++ [d]) id = d.opening id (openingBalance deeds id) :=
  openingBalance_append deeds [d] id

theorem opened_number {deeds : List Deed} {id : AccountId}
    (h : (openingBalance deeds id).isSome) : ⟨.account, id⟩ ∈ numbersOf deeds := by
  induction deeds using List.reverseRecOn with
  | nil => exact nomatch h
  | append_singleton deeds d ih =>
    rw [numbersOf, List.filterMap_append]
    rw [openingBalance_snoc] at h
    obtain ⟨q, row, now⟩ := d
    cases q with
    | createAccount account =>
      simp only [Deed.opening] at h
      split at h
      · next here => exact List.mem_append_right _ (by simp [Deed.number?, Query.number?, here])
      · exact List.mem_append_left _ (ih h)
    | _ => exact List.mem_append_left _ (ih h)

variable {deeds more : List Deed}

theorem Reconciled.transfer {t : NewTransfer} (r : Reconciled deeds)
    (queries : more.map Deed.query = t.queries) (done : ∀ d ∈ more, d.Done)
    (found : ∀ e ∈ entriesOf more, (exactBalance (deeds ++ more) e.accountId).isSome) :
    Reconciled (deeds ++ more) := by
  obtain ⟨balance, opening, legs⟩ := transfer_deeds queries done
  have balances : ∀ {id b}, exactBalance (deeds ++ more) id = some b →
      ∃ o, openingBalance (deeds ++ more) id = some o ∧
        b = o + amountOn id (entriesOf (deeds ++ more)) := by
    intro id b h
    rw [exactBalance_append, balance] at h
    obtain ⟨before, hbefore, rfl⟩ := Option.map_eq_some_iff.mp h
    obtain ⟨o, ho, rfl⟩ := r.balances hbefore
    refine ⟨o, by rw [openingBalance_append, opening, ho], ?_⟩
    rw [entriesOf_append, amountOn_append, Int.add_assoc]
  refine ⟨balances, fun e he => ?_, ?_⟩
  · rcases List.mem_append.mp (entriesOf_append .. ▸ he) with he | he
    · rw [openingBalance_append, opening]
      exact r.opened e he
    · obtain ⟨b, hb⟩ := Option.isSome_iff_exists.mp (found e he)
      obtain ⟨o, ho, -⟩ := balances hb
      exact Option.isSome_iff_exists.mpr ⟨o, ho⟩
  · rw [entriesOf_append, transfersOf_append, List.map_append, List.flatMap_append, legs]
    exact r.legs.append_right _

/-- A deed that makes no entry and no transfer. -/
theorem Reconciled.snoc {d : Deed} (r : Reconciled deeds) (entry : d.entry? = none)
    (transfer : d.transfer? = none)
    (balances : ∀ {id balance}, exactBalance (deeds ++ [d]) id = some balance → ∃ opening,
      openingBalance (deeds ++ [d]) id = some opening ∧
        balance = opening + amountOn id (entriesOf deeds))
    (opened : ∀ e ∈ entriesOf deeds, d.opening e.accountId (openingBalance deeds e.accountId) =
      openingBalance deeds e.accountId) :
    Reconciled (deeds ++ [d]) := by
  have entries : entriesOf (deeds ++ [d]) = entriesOf deeds := by simp [entriesOf, entry]
  have transfers : transfersOf (deeds ++ [d]) = transfersOf deeds := by
    simp [transfersOf, transfer]
  refine ⟨fun h => ?_, fun e he => ?_, ?_⟩
  · rw [entries]
    exact balances h
  · rw [entries] at he
    rw [openingBalance_snoc, opened e he]
    exact r.opened e he
  · rw [entries, transfers]
    exact r.legs

theorem Reconciled.create {row : Account} (r : Reconciled deeds)
    (distinct : (numbersOf (deeds ++ [⟨.createAccount account, row, now⟩])).Nodup) :
    Reconciled (deeds ++ [⟨.createAccount account, row, now⟩]) := by
  have new : ∀ e ∈ entriesOf deeds, e.accountId ≠ row.id := by
    rintro e he here
    rw [numbersOf, List.filterMap_append, List.nodup_append] at distinct
    exact distinct.2.2 _ (opened_number (here ▸ r.opened e he)) _ List.mem_cons_self rfl
  refine r.snoc rfl rfl (fun {id balance} h => ?_) fun e he => if_neg (new e he).symm
  rw [exactBalance_snoc, Deed.balance] at h
  rw [openingBalance_snoc, Deed.opening]
  split at h
  · next here =>
    obtain rfl := Option.some.inj h
    have none : (entriesOf deeds).filter (·.accountId = id) = [] :=
      List.filter_eq_nil_iff.mpr fun e he => by simpa using here ▸ new e he
    exact ⟨_, if_pos here, by rw [amountOn, none]; exact (Int.add_zero _).symm⟩
  · next other =>
    rw [if_neg other]
    exact r.balances h

theorem Reconciled.delete {id : AccountId} (r : Reconciled deeds) :
    Reconciled (deeds ++ [⟨.deleteAccount id, (), now⟩]) := by
  refine r.snoc rfl rfl (fun {other balance} h => ?_) fun _ _ => rfl
  rw [exactBalance_snoc] at h
  rw [openingBalance_snoc]
  have h : (if id = other then none else exactBalance deeds other) = some balance := h
  split at h
  · cases h
  · exact r.balances h

/-- One more job keeps balances and entries together, when its accounts are there afterwards and
its numbers are new. -/
theorem Reconciled.job {job : Job} (r : Reconciled deeds)
    (queries : more.map Deed.query = job.queries) (done : ∀ d ∈ more, d.Done)
    (distinct : (numbersOf (deeds ++ more)).Nodup)
    (found : ∀ e ∈ entriesOf more, (exactBalance (deeds ++ more) e.accountId).isSome) :
    Reconciled (deeds ++ more) := by
  cases job with
  | transfer t => exact r.transfer queries done found
  | create account =>
    obtain ⟨row, now, _, rfl, rest⟩ := map_query_cons queries
    obtain rfl := List.map_eq_nil_iff.mp rest
    exact r.create distinct
  | delete id =>
    obtain ⟨_, now, _, rfl, rest⟩ := map_query_cons queries
    obtain rfl := List.map_eq_nil_iff.mp rest
    exact r.delete

end Store

end Passbook
