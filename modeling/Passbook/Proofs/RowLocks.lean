import Passbook.Proofs.Lineage
import Passbook.Work.Transaction

/-!
# Row locks

Every row lock is that of one open transaction (`Locked.mem_locksOf`), and an open transaction has
the locks of all that it has written or deleted (`Staged`). Whoever else commits meanwhile, the
committed row is the one that was there when the lock was taken (`heldSince_run`). An account that
was deleted had been there, so that no number drawn later is its own, and nothing is written in its
place (`Removed`).
-/

namespace Passbook.Store

-- ---------------------------------------------------------------------------
-- Deleted accounts
-- ---------------------------------------------------------------------------

/-- What a transaction has deleted was committed or its own new account, and is not written
again. -/
structure Removed (committed : Tables) (own : Transaction) (journal : List Deed) : Prop where
  known : ∀ {id}, id ∈ own.deleted →
    ⟨.account, id⟩ ∈ numbersOf journal ∨ ∃ row, committed.accounts.get? id = some row
  unwritten : ∀ {id}, id ∈ own.deleted → own.written.accounts.get? id = none

namespace Removed

variable {held : RowKey → Prop} {committed committed' : Tables} {own : Transaction}
  {journal : List Deed} {v : View}

theorem empty : Removed committed {} journal where
  known h := nomatch h
  unwritten h := nomatch h

theorem spare (r : Removed committed own journal) (staged : Staged held committed own)
    (spared : Tables.Spared held committed committed') : Removed committed' own journal where
  known gone := (r.known gone).imp_right fun ⟨row, found⟩ =>
    ⟨row, (spared.account (staged.deleted gone)).trans found⟩
  unwritten := r.unwritten

theorem before (r : Removed committed own journal) (more : List Deed) :
    Removed committed own (journal ++ more) where
  known gone := (r.known gone).imp_left fun made =>
    numbersOf_append journal more ▸ List.mem_append_left _ made
  unwritten := r.unwritten

theorem write {row : Account} (r : Removed v.committed v.own journal)
    (kept : row.id ∉ v.own.deleted) :
    Removed v.committed (v.own.apply (.account row)) journal where
  known := r.known
  unwritten {id} gone := by
    have apart : id ≠ row.id := fun same => kept (same ▸ gone)
    rw [Transaction.apply, Table.get?_insert, if_neg apart]
    exact r.unwritten gone

/-- An account that is seen has not been deleted. -/
theorem rewrite {id : AccountId} {row old : Account} (r : Removed v.committed v.own journal)
    (keyed : v.Keyed) (seen : v.account? id = some old) (same : row.id = old.id) :
    Removed v.committed (v.own.apply (.account row)) journal := by
  refine r.write ?_
  rw [same, keyed.account seen]
  exact (View.account?_eq_some.mp seen).1

theorem delete {id : AccountId} (r : Removed v.committed v.own journal)
    (i : Inherited v.committed v.own journal) (seen : v.account? id = some row) :
    Removed v.committed (v.own.apply (.deleteAccount id)) journal where
  known gone := by
    rcases List.mem_cons.mp gone with rfl | gone
    · exact (i.seen_account seen).imp_right fun ⟨old, found, _⟩ => ⟨old, found⟩
    · exact r.known gone
  unwritten {other} gone := by
    rw [Transaction.apply, Table.get?_erase]
    split
    · rfl
    · next apart => exact r.unwritten ((List.mem_cons.mp gone).resolve_left apart)

theorem did {d : Deed} (r : Removed v.committed v.own journal)
    (i : Inherited v.committed v.own journal) (keyed : v.Keyed)
    (did : d.query.Did v number d.row change)
    (fresh : ∀ id, d.number? = some ⟨.account, id⟩ →
      ⟨.account, id⟩ ∉ numbersOf journal ∧ ∀ row, v.committed.accounts.get? id ≠ some row) :
    Removed v.committed (v.own.apply change) (journal ++ [d]) := by
  refine before ?_ _
  obtain ⟨query, row, now⟩ := d
  cases did with
  | createAccount =>
    obtain ⟨unmade, uncommitted⟩ := fresh _ rfl
    exact r.write fun gone => (r.known gone).elim unmade fun ⟨row, found⟩ => uncommitted row found
  | setBalance _ seen hr =>
    subst hr
    exact r.rewrite keyed seen rfl
  | adjustBalance seen _ hr =>
    subst hr
    exact r.rewrite keyed seen rfl
  | deleteAccount seen => exact r.delete i seen
  | _ => exact ⟨r.known, r.unwritten⟩

end Removed

-- ---------------------------------------------------------------------------
-- Holders
-- ---------------------------------------------------------------------------

namespace System

variable {Name : Type} [DecidableEq Name] {Result : Name → Type} {sys sys' : System Result}

/-- Nothing is committed by the happening that gives a transaction a lock. -/
theorem committed_of_taken (l : sys.Locked) (h : Happened sys sys')
    (free : ¬sys.store.Holds tx key) (held : sys'.store.Holds tx key) :
    sys'.store.committed = sys.store.committed := by
  cases h with
  | @moved mark next name p p' task m =>
    by_cases committed : mark = .committed
    · -- A commit gives locks back and takes none.
      subst committed
      obtain ⟨_, _, -, -, -, closed⟩ := m.committed_ended
      have held : next.Holds tx key := held
      rw [closed] at held
      exact absurd (l.store.holds_close held) free
    · exact m.committed_same committed
  | cancelled => exact close_committed ..
  | left => rfl
  | armed => rfl

/-- Nothing is committed that needs the locks of a transaction that goes on. -/
theorem spared_of_held (t : sys.Tidy) (g : sys.Guarded) (l : sys.Locked) (h : Happened sys sys')
    (before : sys.store.Holds tx key) (after : sys'.store.Holds tx key) :
    Tables.Spared (sys.store.Holds tx) sys.store.committed sys'.store.committed := by
  have opened := (l.happened t h).store.holder_isOpen after
  obtain ⟨own, opened⟩ := Option.isSome_iff_exists.mp opened
  cases fate t g h tx with
  | closed closed => exact nomatch closed.symm.trans opened
  | opened new =>
    have old := t.fresh (l.store.holder_isOpen before)
    exact absurd (new ▸ old) (Nat.lt_irrefl _)
  | kept unharmed => exact unharmed.spared
  | did _ _ _ _ _ same => exact same ▸ .refl _

omit [DecidableEq Name] in
/-- No open transaction has written an account that it has deleted. -/
def Cleared (sys : System Result) : Prop :=
  ∀ {tx own}, sys.store.transaction? tx = some own →
    Removed sys.store.committed own (sys.journals tx)

omit [DecidableEq Name] in
/-- The number of an account that a deed has made is that of none that was known before it. -/
theorem Archived.fresh_did {deed : Deed} {own : Transaction} {journal : List Deed}
    (a : sys.Archived) (enough : sys.Enough) (opened : sys.store.transaction? tx = some own)
    (did : sys.journals tx = journal ++ [deed]) (id : AccountId)
    (made : deed.number? = some ⟨.account, id⟩) :
    ⟨.account, id⟩ ∉ numbersOf journal ∧
      ∀ row, sys.store.committed.accounts.get? id ≠ some row := by
  have numbers : numbersOf (sys.journals tx) = numbersOf journal ++ [⟨.account, id⟩] := by
    rw [did, numbersOf_append, numbersOf_singleton, made]
    rfl
  constructor
  · have distinct := a.numbered.nodup_journal enough tx
    rw [numbers] at distinct
    exact fun again => (List.nodup_append.mp distinct).2.2 _ again _ List.mem_cons_self rfl
  · intro row found
    refine fresh_number a.numbered a.filed enough opened ?_ (a.lineal.accounts found)
    rw [numbers]
    exact List.mem_append_right _ List.mem_cons_self

theorem Cleared.happened (t : sys.Tidy) (g : sys.Guarded) (a : sys.Archived) (c : sys.Cleared)
    (h : Happened sys sys') (enough : sys'.Enough) : sys'.Cleared := by
  intro tx own opened
  cases fate t g h tx with
  | closed closed => exact nomatch closed.symm.trans opened
  | opened _ new =>
    obtain rfl := Option.some.inj (new.symm.trans opened)
    exact .empty
  | kept unharmed journal =>
    have before := unharmed.own.symm.trans opened
    rw [journal]
    exact (c before).spare (ownOf_eq before ▸ g.store.staged tx) unharmed.spared
  | @did deed before change was does now journal _ same =>
    have fresh := (a.happened t g h).fresh_did enough opened journal
    obtain rfl := Option.some.inj (now.symm.trans opened)
    have view : (sys.store.view tx deed.now).own = before := ownOf_eq was
    rw [same] at fresh ⊢
    rw [journal]
    subst view
    exact (c was).did (a.lineal.view was deed.now) (g.store.keyed tx _) does.did
      fresh

-- ---------------------------------------------------------------------------
-- Runs
-- ---------------------------------------------------------------------------

/-- The happening `taken` gave the lock to the transaction, which has had it ever since. What is
committed under the lock is what was committed when it was taken. -/
structure HeldSince (first : System Result) (before : List (Happening Name))
    (taken : Happening Name) (since : List (Happening Name)) (tx : TxId) (key : RowKey) : Prop where
  free : key ∉ (first.run before).store.locksOf tx
  held : ∀ {middle}, middle <+: since →
    key ∈ (first.run (before ++ taken :: middle)).store.locksOf tx
  spared : ∀ {middle}, middle <+: since → Tables.Spared (· = key)
    (first.run before).store.committed (first.run (before ++ taken :: middle)).store.committed

theorem heldSince_run (connections : Nat) (programs : (name : Name) → Program (Result name))
    (happenings : List (Happening Name))
    (held : key ∈ ((start connections programs).run happenings).store.locksOf tx) :
    ∃ before taken since, happenings = before ++ taken :: since ∧
      HeldSince (start connections programs) before taken since tx key := by
  have holds : ∀ {happenings},
      key ∈ ((start connections programs).run happenings).store.locksOf tx ↔
        ((start connections programs).run happenings).store.Holds tx key :=
    (locked_run ..).store.mem_locksOf
  induction happenings using List.reverseRecOn with
  | nil => exact nomatch held
  | append_singleton happenings h ih =>
    have t := tidy_run connections programs happenings
    have g := guarded_run connections programs happenings
    have l := locked_run connections programs happenings
    have happened := after_happened t.opened t.staged h
    rw [← run_snoc] at happened
    by_cases already : key ∈ ((start connections programs).run happenings).store.locksOf tx
    · obtain ⟨before, taken, since, rfl, kept⟩ := ih already
      have longer : before ++ taken :: since ++ [h] = before ++ taken :: (since ++ [h]) := by simp
      rw [longer] at held happened
      have spared := spared_of_held t g l happened (holds.mp already) (holds.mp held)
      refine ⟨before, taken, since ++ [h], longer, kept.free, fun part => ?_, fun part => ?_⟩
      all_goals rcases List.prefix_concat_iff.mp part with rfl | part
      · exact held
      · exact kept.held part
      · refine (kept.spared List.prefix_rfl).trans (spared.mono ?_)
        rintro _ rfl
        exact holds.mp already
      · exact kept.spared part
    · have same := committed_of_taken l happened (already ∘ holds.mpr) (holds.mp held)
      refine ⟨happenings, h, [], rfl, already, fun part => ?_, fun part => ?_⟩
      all_goals obtain rfl := List.prefix_nil.mp part
      · exact held
      · exact same ▸ .refl _

theorem cleared_run (connections : Nat) (programs : (name : Name) → Program (Result name))
    (happenings : List (Happening Name))
    (enough : ((start connections programs).run happenings).Enough) :
    ((start connections programs).run happenings).Cleared := by
  refine enough_induction (motive := Cleared) Archived [] happenings
    (.start connections programs) (fun _ _ t g a h => a.happened t g h) (fun h => nomatch h)
    (fun _ _ t g a c h enough => ?_) enough
  exact c.happened t g a h enough

/-- Every row lock is that of one transaction, which is open. It was taken by one happening and has
been kept since, and so long nothing is committed that needs it. An open transaction has the locks
of all that it has written or deleted, and has written nothing that it has deleted: only a sequence
that has come round to its start could give a deleted account's number to a new one. -/
theorem rowLocks_run (connections : Nat) (programs : (name : Name) → Program (Result name))
    (happenings : List (Happening Name)) :
    let first := start connections programs
    let sys := first.run happenings
    (∀ key tx, key ∈ sys.store.locksOf tx →
      sys.store.isOpen tx ∧ (∀ other, key ∈ sys.store.locksOf other → other = tx) ∧
      ∃ before taken since, happenings = before ++ taken :: since ∧
        HeldSince first before taken since tx key) ∧
    ∀ tx own, sys.store.transaction? tx = some own →
      Staged (· ∈ sys.store.locksOf tx) sys.store.committed own ∧
      (sys.Enough → ∀ id ∈ own.deleted, own.written.accounts.get? id = none) := by
  intro first sys
  have locked : sys.Locked := locked_run connections programs happenings
  have guarded : sys.Guarded := guarded_run connections programs happenings
  have holds : ∀ {key tx}, key ∈ sys.store.locksOf tx ↔ sys.store.Holds tx key :=
    locked.store.mem_locksOf
  refine ⟨fun key tx held => ⟨?_, fun other again => ?_, ?_⟩, fun tx own opened => ⟨?_, ?_⟩⟩
  · exact locked.store.holder_isOpen (holds.mp held)
  · exact (holds.mp again).unique (holds.mp held)
  · exact heldSince_run connections programs happenings held
  · have staged := guarded.store.staged tx
    rw [ownOf_eq opened] at staged
    exact staged.hold fun key => holds.mpr
  · intro enough id gone
    exact (cleared_run connections programs happenings enough opened).unwritten gone

/-- An account is opened. Then one task closes it and opens another, while somebody waits to pay
into the first. -/
inductive Contending
  | opening | closing | paying
  deriving DecidableEq

def Contending.program : Contending → Program (Except Error Account)
  | .opening => Query.run (.createAccount ⟨"alice", 0, .usd⟩)
  | .closing => Work.runInTransaction do
      Work.query (.deleteAccount ⟨1⟩)
      Work.query (.createAccount ⟨"bob", 0, .usd⟩)
  | .paying => Query.run (.adjustBalance ⟨⟨1⟩, 5⟩)

def contending (happenings : List (Happening Contending)) :
    System fun _ : Contending => Except Error Account :=
  (start 2 Contending.program).run happenings

/-- The account that is being closed stays committed as it was, and the payment waits. -/
theorem rowLocks_contending :
    let happenings := steps .opening 6 ++ steps .closing 7 ++ steps .paying 3
    let sys := contending happenings
    (sys.tasks .paying).bind (·.awaits?) = some (.account ⟨1⟩) ∧
      sys.store.locksOf 1 = [.account ⟨2⟩, .account ⟨1⟩] ∧
      (∃ before taken since, happenings = before ++ taken :: since ∧
        HeldSince (start 2 Contending.program) before taken since 1 (.account ⟨1⟩)) ∧
      ∃ own, sys.store.transaction? 1 = some own ∧ own.deleted = [⟨1⟩] ∧
        own.written.accounts.values.map (·.id) = [⟨2⟩] ∧
        Staged (· ∈ sys.store.locksOf 1) sys.store.committed own ∧ sys.Enough ∧
        own.written.accounts.get? ⟨1⟩ = none := by
  intro happenings sys
  have locks : sys.store.locksOf 1 = [.account ⟨2⟩, .account ⟨1⟩] := by decide +kernel
  have enough : sys.Enough := enough_run 2 _ (by decide +kernel)
  have rows : (sys.store.transaction? 1).map (fun own =>
      (own.deleted, own.written.accounts.values.map (·.id))) = some ([⟨1⟩], [⟨2⟩]) := by
    decide +kernel
  obtain ⟨own, opened, rows⟩ := Option.map_eq_some_iff.mp rows
  obtain ⟨gone, written⟩ := Prod.mk.inj rows
  obtain ⟨held, covered⟩ := rowLocks_run 2 Contending.program happenings
  obtain ⟨-, -, since⟩ := held (.account ⟨1⟩) 1 (locks ▸ by simp)
  obtain ⟨staged, cleared⟩ := covered 1 own opened
  exact ⟨by decide +kernel, locks, since, own, opened, gone, written, staged, enough,
    cleared enough ⟨1⟩ (gone ▸ by simp)⟩

end System

end Passbook.Store
