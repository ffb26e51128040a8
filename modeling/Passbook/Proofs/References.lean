import Passbook.Proofs.Journal
import Passbook.Work.Transaction

/-!
# References

Sessions name users, who are never deleted, so that the user of every committed session is there.
Entries and transfers name accounts, which are. A deletion locks the account and looks for entries
and transfers that name it, but these are made without a lock and are not seen before they are
committed. So an account that is named is there as long as whoever commits an entry or a transfer
on it has locked it as well, as transfers of money do by changing its balance (`references_run`).
An entry that is made without that can be left without its account (`entry_dangling`).
-/

namespace Passbook

open Store

-- ---------------------------------------------------------------------------
-- Accounts that are named
-- ---------------------------------------------------------------------------

/-- The query makes an entry or a transfer that names the account. -/
def Query.Names (id : AccountId) : Query → Prop
  | .createEntry entry => entry.accountId = id
  | .createTransfer t => t.fromAccountId = id ∨ t.toAccountId = id
  | _ => False

namespace Store

theorem entriesOf_names {deeds : List Deed} {row : Entry} (done : ∀ d ∈ deeds, d.Done)
    (h : row ∈ entriesOf deeds) : ∃ q ∈ deeds.map Deed.query, q.Names row.accountId := by
  obtain ⟨⟨q, made, now⟩, hd, hrow⟩ := List.mem_filterMap.mp h
  refine ⟨q, List.mem_map_of_mem hd, ?_⟩
  cases q with
  | createEntry entry =>
    obtain rfl := Option.some.inj hrow
    exact (entry_done (done _ hd)).1.symm
  | _ => exact nomatch hrow

theorem transfersOf_names {deeds : List Deed} {row : Transfer} {id : AccountId}
    (done : ∀ d ∈ deeds, d.Done) (h : row ∈ transfersOf deeds)
    (here : row.fromAccountId = id ∨ row.toAccountId = id) :
    ∃ q ∈ deeds.map Deed.query, q.Names id := by
  obtain ⟨⟨q, made, now⟩, hd, hrow⟩ := List.mem_filterMap.mp h
  refine ⟨q, List.mem_map_of_mem hd, ?_⟩
  cases q with
  | createTransfer t =>
    obtain rfl := Option.some.inj hrow
    obtain ⟨-, source, target, -⟩ := transfer_done (done _ hd)
    exact here.imp source.symm.trans target.symm.trans
  | _ => exact nomatch hrow

theorem Journaled.names {held : RowKey → Prop} {own : Transaction} {journal : List Deed}
    {id : AccountId} (j : Journaled held own journal) (h : own.written.Names id) :
    ∃ q ∈ journal.map Deed.query, q.Names id := by
  rcases h with ⟨row, hrow, here⟩ | ⟨row, hrow, here⟩
  · obtain ⟨key, hrow⟩ := Table.mem_values.mp hrow
    rw [j.entries] at hrow
    exact here ▸ entriesOf_names j.done (Table.mem_of_ofRows hrow).1
  · obtain ⟨key, hrow⟩ := Table.mem_values.mp hrow
    rw [j.transfers] at hrow
    exact transfersOf_names j.done (Table.mem_of_ofRows hrow).1 here

theorem names_empty {id : AccountId} : ¬Tables.Names {} id := by
  rintro (⟨_, h, -⟩ | ⟨_, h, -⟩) <;> exact nomatch h

theorem names_published {v : View} {id : AccountId} (h : v.published.Names id) :
    v.committed.Names id ∨ v.own.written.Names id := by
  rcases h with ⟨row, hrow, here⟩ | ⟨row, hrow, here⟩
  · obtain ⟨key, hrow⟩ := Table.mem_values.mp hrow
    rw [v.publish_entry?] at hrow
    rcases View.entry?_eq_some.mp hrow with hrow | ⟨-, hrow⟩
    · exact .inr (.inl ⟨row, Table.mem_values.mpr ⟨key, hrow⟩, here⟩)
    · exact .inl (.inl ⟨row, Table.mem_values.mpr ⟨key, hrow⟩, here⟩)
  · obtain ⟨key, hrow⟩ := Table.mem_values.mp hrow
    rw [v.publish_transfer?] at hrow
    rcases View.transfer?_eq_some.mp hrow with hrow | ⟨-, hrow⟩
    · exact .inr (.inr ⟨row, Table.mem_values.mpr ⟨key, hrow⟩, here⟩)
    · exact .inl (.inr ⟨row, Table.mem_values.mpr ⟨key, hrow⟩, here⟩)

/-- An account that is there or was written is still there after a commit, unless it is deleted. -/
theorem account_published {v : View} {id : AccountId}
    (there : (v.own.written.accounts.get? id).isSome ∨ (v.committed.accounts.get? id).isSome)
    (live : id ∉ v.own.deleted) : (v.published.accounts.get? id).isSome := by
  rw [v.publish_account?, View.account?, if_neg live]
  rcases there with there | there <;> simp [there]

-- ---------------------------------------------------------------------------
-- Accounts that are locked
-- ---------------------------------------------------------------------------

/-- The account was there when the transaction began to lock it, and the transaction may have
deleted it since. -/
def Rooted (committed : Tables) (own : Transaction) (id : AccountId) : Prop :=
  id ∈ own.deleted ∨ (own.written.accounts.get? id).isSome ∨ (committed.accounts.get? id).isSome

end Store

/-- Whoever locks an account by its number finds it. -/
theorem Query.Did.account_locked {q : Query} {row : q.Row} {v : View} {id : AccountId}
    (did : q.Did v number row change) (locks : .account id ∈ q.keys) :
    (v.account? id).isSome := by
  cases did with
  | @lockAccount locked _ found =>
    obtain rfl : id = locked := by simpa [keys] using locks
    exact Option.isSome_iff_exists.mpr ⟨_, found⟩
  | @deleteAccount deleted _ found =>
    obtain rfl : id = deleted := by simpa [keys] using locks
    exact Option.isSome_iff_exists.mpr ⟨_, found⟩
  | @setBalance overwrite _ _ _ found =>
    obtain rfl : id = overwrite.id := by simpa [keys] using locks
    exact Option.isSome_iff_exists.mpr ⟨_, found⟩
  | @adjustBalance _ a _ _ found =>
    obtain rfl : id = a.accountId := by simpa [keys] using locks
    exact Option.isSome_iff_exists.mpr ⟨_, found⟩
  | @updateUser changes =>
    cases hm : changes.email <;> simp [keys, hm] at locks
  | read reads => cases q <;> first | cases locks; done | cases reads
  | _ => simp [keys] at locks

namespace Store

theorem Rooted.apply {committed : Tables} {own : Transaction} {id : AccountId}
    (h : Rooted committed own id) (change : Change) : Rooted committed (own.apply change) id := by
  rcases h with deleted | written | found
  · exact (changed_apply change (.inl deleted)).imp_right .inl
  · exact (changed_apply change (.inr written)).imp_right .inl
  · exact .inr (.inr found)

variable {q : Query} {row : q.Row} {v : View} {id : AccountId}

/-- An account that comes to be named is seen by then. -/
theorem names_apply (did : q.Did v number row change) (h : (v.own.apply change).written.Names id) :
    v.own.written.Names id ∨ q.Names id ∧ (v.account? id).isSome := by
  cases did with
  | createEntry found hr =>
    rcases h with ⟨e, he, here⟩ | transfers
    · obtain ⟨key, he⟩ := Table.mem_values.mp he
      rcases Table.get?_insert_eq_some he with ⟨-, rfl⟩ | he
      · subst hr here
        exact .inr ⟨rfl, Option.isSome_iff_exists.mpr ⟨_, found⟩⟩
      · exact .inl (.inl ⟨e, Table.mem_values.mpr ⟨key, he⟩, here⟩)
    · exact .inl (.inr transfers)
  | createTransfer _ source target hr =>
    rcases h with entries | ⟨t, ht, here⟩
    · exact .inl (.inl entries)
    · obtain ⟨key, ht⟩ := Table.mem_values.mp ht
      rcases Table.get?_insert_eq_some ht with ⟨-, rfl⟩ | ht
      · subst hr
        rcases here with rfl | rfl
        · exact .inr ⟨.inl rfl, Option.isSome_iff_exists.mpr ⟨_, source⟩⟩
        · exact .inr ⟨.inr rfl, Option.isSome_iff_exists.mpr ⟨_, target⟩⟩
      · exact .inl (.inr ⟨t, Table.mem_values.mpr ⟨key, ht⟩, here⟩)
  | _ => exact .inl h

/-- A transaction does not delete what it names. -/
theorem live_apply (did : q.Did v number row change)
    (before : v.own.written.Names id → id ∉ v.own.deleted)
    (h : (v.own.apply change).written.Names id) : id ∉ (v.own.apply change).deleted := by
  intro deleted
  rcases deleted_apply v.own did id deleted with rfl | deleted
  · cases did with
    | deleteAccount _ free => exact (isReferenced_false free).2 h
    | read reads => exact nomatch reads
  · rcases names_apply did h with names | ⟨-, found⟩
    · exact before names deleted
    · obtain ⟨account, found⟩ := Option.isSome_iff_exists.mp found
      exact (View.account?_eq_some.mp found).1 deleted

/-- What an open transaction has locked was there, and what it names it has not deleted. -/
structure Referring (committed : Tables) (own : Transaction) (journal : List Deed) : Prop where
  locked : ∀ {id}, ∀ d ∈ journal, .account id ∈ d.query.keys → Rooted committed own id
  live : ∀ {id}, own.written.Names id → id ∉ own.deleted

theorem Referring.empty {committed : Tables} : Referring committed {} [] where
  locked _ h := nomatch h
  live _ h := nomatch h

theorem Referring.did {journal : List Deed}
    (r : Referring v.committed v.own journal)
    (did : q.Did v number row change) :
    Referring v.committed (v.own.apply change) (journal ++ [⟨q, row, now⟩]) where
  locked {id} d hd locks := by
    rcases List.mem_append.mp hd with hd | hd
    · exact (r.locked d hd locks).apply change
    · obtain rfl := List.mem_singleton.mp hd
      obtain ⟨account, found⟩ := Option.isSome_iff_exists.mp (did.account_locked locks)
      obtain ⟨-, written | ⟨-, found⟩⟩ := View.account?_eq_some.mp found
      · exact Rooted.apply (.inr (.inl (Option.isSome_iff_exists.mpr ⟨_, written⟩))) change
      · exact .inr (.inr (Option.isSome_iff_exists.mpr ⟨_, found⟩))
  live := live_apply did r.live

theorem Referring.spare {committed committed' : Tables} {own : Transaction} {journal : List Deed}
    {held : RowKey → Prop} (r : Referring committed own journal) (j : Journaled held own journal)
    (spared : Tables.Spared held committed committed') : Referring committed' own journal where
  locked d hd locks := by
    rw [Rooted, spared.account (j.held d hd _ (d.query.keys_subset_locks d.row locks))]
    exact r.locked d hd locks
  live := r.live

-- ---------------------------------------------------------------------------
-- Sessions and their users
-- ---------------------------------------------------------------------------

structure Tables.UsersThere (t : Tables) : Prop where
  user : ∀ {id row}, t.sessions.get? id = some row → (t.users.get? row.username).isSome

theorem Tables.UsersThere.empty : Tables.UsersThere {} := ⟨fun h => nomatch h⟩

theorem Tables.UsersThere.apply (u : v.published.UsersThere) (did : q.Did v number row change) :
    (v.committed.publish (v.own.apply change).written (v.own.apply change).deleted).UsersThere := by
  cases did with
  | createSession found _ hr =>
    refine ⟨fun h => ?_⟩
    rcases Table.get?_overlay_insert_eq_some h with ⟨-, rfl⟩ | old
    · subst hr
      exact Option.isSome_iff_exists.mpr ⟨_, (v.publish_user? _).trans found⟩
    · exact u.user old
  | revokeSession found hr =>
    refine ⟨fun h => ?_⟩
    rcases Table.get?_overlay_insert_eq_some h with ⟨-, rfl⟩ | old
    · subst hr
      have there := u.user ((v.publish_session? _).trans found)
      exact there
    · exact u.user old
  | createUser => exact ⟨fun h => Table.isSome_overlay_insert (u.user h)⟩
  | updateUser => exact ⟨fun h => Table.isSome_overlay_insert (u.user h)⟩
  | changePassword => exact ⟨fun h => Table.isSome_overlay_insert (u.user h)⟩
  | _ => exact ⟨u.user⟩

theorem Tables.UsersThere.spare {committed committed' : Tables} {own : Transaction}
    (u : (committed.publish own.written own.deleted).UsersThere) (after : committed'.UsersThere)
    (stay : ∀ {name}, (committed.users.get? name).isSome → (committed'.users.get? name).isSome) :
    (committed'.publish own.written own.deleted).UsersThere := by
  refine ⟨fun {id row} h => ?_⟩
  rw [publish, Table.get?_overlay]
  rcases Table.get?_overlay_eq_some.mp h with written | ⟨-, found⟩
  · have there := u.user (Table.get?_overlay_eq_some.mpr (.inl written))
    rw [publish, Table.get?_overlay] at there
    cases hw : own.written.users.get? row.username with
    | some user => rfl
    | none =>
      rw [hw] at there
      exact stay there
  · have there := after.user found
    cases own.written.users.get? row.username with
    | some user => rfl
    | none => exact there

-- ---------------------------------------------------------------------------
-- Systems
-- ---------------------------------------------------------------------------

namespace System

variable {Name : Type} [DecidableEq Name] {Result : Name → Type} {sys sys' : System Result}

omit [DecidableEq Name] in
theorem Booked.holds_deleted {id : AccountId} (b : sys.Booked) (opened : sys.store.isOpen tx)
    (h : .deleteAccount id ∈ (sys.journals tx).map Deed.query) :
    sys.store.Holds tx (.account id) := by
  obtain ⟨own, hown⟩ := Option.isSome_iff_exists.mp opened
  obtain ⟨d, hd, query⟩ := List.mem_map.mp h
  have locks : .account id ∈ d.query.keys := query ▸ List.mem_singleton_self _
  exact (b.opened hown).held d hd _ (d.query.keys_subset_locks d.row locks)

/-- An account that is deleted in an open transaction stays unnamed, when nobody who does not hold
its lock has it named. -/
theorem Booked.unnamed_happened {id : AccountId} (t : sys.Tidy) (g : sys.Guarded)
    (b : sys.Booked) (h : Happened sys sys')
    (unnamed : ∀ {tx}, sys.store.isOpen tx →
      .deleteAccount id ∈ (sys.journals tx).map Deed.query → ¬sys.store.committed.Names id)
    (spared : ∀ {tx}, sys'.store.isOpen tx → sys.store.Holds tx (.account id) →
      sys'.store.committed.Names id → sys.store.committed.Names id)
    (opened : sys'.store.isOpen tx) :
    .deleteAccount id ∈ (sys'.journals tx).map Deed.query → ¬sys'.store.committed.Names id := by
  obtain ⟨own, opened⟩ := Option.isSome_iff_exists.mp opened
  have still : sys'.store.isOpen tx := Option.isSome_iff_exists.mpr ⟨own, opened⟩
  refine open_happened (motive := fun _ journal => .deleteAccount id ∈ journal.map Deed.query →
      ¬sys'.store.committed.Names id)
    t g h opened (fun h => nomatch h) (fun before kept deletes names => ?_)
    fun {deed _} was does _ same deletes => ?_
  · have before : sys.store.isOpen tx := Option.isSome_iff_exists.mpr ⟨own, before⟩
    exact unnamed before deletes (spared still (b.holds_deleted before deletes) names)
  · rw [List.map_append, List.map_singleton] at deletes
    rw [same]
    rcases List.mem_append.mp deletes with deletes | deletes
    · exact unnamed (Option.isSome_iff_exists.mpr ⟨_, was⟩) deletes
    · obtain ⟨q, row, now⟩ := deed
      obtain rfl : Query.deleteAccount id = q := List.mem_singleton.mp deletes
      cases does.did with
      | deleteAccount _ free => exact (isReferenced_false free).1
      | read reads => exact nomatch reads

/-- What open transactions have locked was there, and what they name they have not deleted. -/
structure Linked (sys : System Result) : Prop where
  booked : sys.Booked
  referring : ∀ {tx own}, sys.store.transaction? tx = some own →
    Referring sys.store.committed own (sys.journals tx)

theorem Linked.happened (t : sys.Tidy) (g : sys.Guarded) (l : sys.Linked)
    (h : Happened sys sys') : sys'.Linked := by
  refine ⟨l.booked.happened t g h, fun {tx own} opened => ?_⟩
  refine open_happened t g h opened .empty (fun before kept => ?_) fun was does _ same => ?_
  · exact (l.referring before).spare (l.booked.opened before) kept.spared
  · rw [same]
    exact (l.referring was).did does.did

/-- Everyone who has committed an entry or a transfer on the account had locked it by then. -/
def Anchored (history : List (Commit Name)) (id : AccountId) : Prop :=
  ∀ c ∈ history, (∃ d ∈ c.deeds, d.query.Names id) → ∃ d ∈ c.deeds, .account id ∈ d.query.keys

theorem Anchored.before {id : AccountId} (h : Happened sys sys') (a : Anchored sys'.history id) :
    Anchored sys.history id := by
  cases recorded h with
  | same _ history => exact history ▸ a
  | commit _ _ _ _ history =>
    exact fun c hc => a c (history ▸ List.mem_append_left _ hc)

/-- The account is there if it is named, and it is not named when somebody deletes it. -/
structure Intact (id : AccountId) (sys : System Result) : Prop where
  named : sys.store.committed.Names id → (sys.store.committed.accounts.get? id).isSome
  unnamed : ∀ {tx}, sys.store.isOpen tx →
    .deleteAccount id ∈ (sys.journals tx).map Deed.query → ¬sys.store.committed.Names id

theorem Intact.happened {id : AccountId} (t : sys.Tidy) (g : sys.Guarded) (l : sys.Linked)
    (i : sys.Intact id) (h : Happened sys sys') (anchored : Anchored sys'.history id) :
    sys'.Intact id := by
  cases recorded h with
  | same committed history =>
    refine ⟨fun names => ?_, fun opened deletes => ?_⟩
    · rw [committed] at names ⊢
      exact i.named names
    · exact l.booked.unnamed_happened t g h i.unnamed (fun _ _ names => committed ▸ names) opened
        deletes
  | @commit name tx own author opened closed committed history =>
    have j := l.booked.opened opened
    have published : sys'.store.committed = (sys.store.view tx default).published :=
      committed.trans (view_published opened default).symm
    have view : (sys.store.view tx default).own = own := ownOf_eq opened
    -- What the transaction itself names it has locked, and so the account is there.
    have here : own.written.Names id → (sys'.store.committed.accounts.get? id).isSome ∧
        sys.store.Holds tx (.account id) := by
      intro names
      obtain ⟨q, hq, named⟩ := j.names names
      obtain ⟨d, hd, rfl⟩ := List.mem_map.mp hq
      obtain ⟨d, hd, locks⟩ :=
        anchored ⟨name, tx, sys.journals tx⟩ (by simp [history]) ⟨d, hd, named⟩
      have live := (l.referring opened).live names
      have there := ((l.referring opened).locked d hd locks).resolve_left live
      exact ⟨published ▸ account_published (view.symm ▸ there) (view.symm ▸ live),
        j.held d hd _ (d.query.keys_subset_locks d.row locks)⟩
    have named : sys'.store.committed.Names id →
        sys.store.committed.Names id ∨ own.written.Names id := by
      intro names
      rw [published] at names
      exact (names_published names).imp_right fun names => view ▸ names
    refine ⟨fun names => ?_, fun {other} open_ deletes => ?_⟩
    · rcases named names with before | names
      · rw [published]
        refine account_published (.inr (i.named before)) fun hd => ?_
        have alive := Option.isSome_iff_exists.mpr ⟨own, opened⟩
        exact i.unnamed alive (j.deleted _ (view ▸ hd)) before
      · exact (here names).1
    · refine l.booked.unnamed_happened t g h i.unnamed (fun {holder} open_ holds names => ?_) open_
        deletes
      refine (named names).resolve_right fun names => ?_
      obtain rfl := holds.unique (here names).2
      rw [isOpen, closed] at open_
      cases open_

def Deleted (history : List (Commit Name)) (id : AccountId) : Prop :=
  .deleteAccount id ∈ (deedsOf history).map Deed.query

theorem deleted_stays {id : AccountId} (h : Happened sys sys') (deleted : Deleted sys.history id) :
    Deleted sys'.history id := by
  cases recorded h with
  | same _ history => exact history ▸ deleted
  | commit _ _ _ _ history =>
    rw [Deleted, history, deedsOf_snoc, List.map_append]
    exact List.mem_append_left _ deleted

/-- An account that is committed stays, unless a committed transaction has deleted it. -/
theorem Booked.account_stays {id : AccountId} (b : sys.Booked) (h : Happened sys sys')
    (there : (sys.store.committed.accounts.get? id).isSome) :
    (sys'.store.committed.accounts.get? id).isSome ∨ Deleted sys'.history id := by
  cases recorded h with
  | same committed => exact .inl (committed ▸ there)
  | @commit name tx own author opened _ committed history =>
    have view : (sys.store.view tx default).own = own := ownOf_eq opened
    rw [committed, ← view_published opened default]
    by_cases hd : id ∈ own.deleted
    · refine .inr ?_
      rw [Deleted, history, deedsOf_snoc, List.map_append]
      exact List.mem_append_right _ ((b.opened opened).deleted id hd)
    · exact .inl (account_published (.inr there) (view.symm ▸ hd))

/-- The users of all sessions are there, as far as any transaction sees, and an account that is
named is there unless it has been deleted. -/
structure Referred (sys : System Result) : Prop where
  linked : sys.Linked
  committed : sys.store.committed.UsersThere
  seen : ∀ {tx own}, sys.store.transaction? tx = some own →
    (sys.store.committed.publish own.written own.deleted).UsersThere
  named : ∀ {id}, sys.store.committed.Names id →
    (sys.store.committed.accounts.get? id).isSome ∨ Deleted sys.history id
  naming : ∀ {tx own id}, sys.store.transaction? tx = some own → own.written.Names id →
    Rooted sys.store.committed own id ∨ Deleted sys.history id
  intact : ∀ {id}, Anchored sys.history id → sys.Intact id

omit [DecidableEq Name] in
theorem Referred.start (connections : Nat) (programs : (name : Name) → Program (Result name)) :
    (start connections programs).Referred where
  linked := ⟨.start .., fun h => nomatch h⟩
  committed := .empty
  seen h := nomatch h
  named names := absurd names names_empty
  naming h := nomatch h
  intact _ := ⟨fun names => absurd names names_empty, fun h => nomatch h⟩

theorem Referred.naming_happened {own : Transaction} {id : AccountId} (t : sys.Tidy)
    (g : sys.Guarded) (r : sys.Referred) (h : Happened sys sys')
    (opened : sys'.store.transaction? tx = some own) (names : own.written.Names id) :
    Rooted sys'.store.committed own id ∨ Deleted sys'.history id := by
  refine open_happened (motive := fun own _ => own.written.Names id →
      Rooted sys'.store.committed own id ∨ Deleted sys'.history id)
    t g h opened (fun names => absurd names names_empty) (fun before kept names => ?_)
    (fun was does _ same names => ?_) names
  · rcases r.naming before names with rooted | deleted
    · rcases rooted with deleted | written | there
      · exact .inl (.inl deleted)
      · exact .inl (.inr (.inl written))
      · exact (r.linked.booked.account_stays h there).imp_left fun there => .inr (.inr there)
    · exact .inr (deleted_stays h deleted)
  · rw [same]
    rcases names_apply does.did names with names | ⟨-, found⟩
    · exact (r.naming was names).imp (fun rooted => rooted.apply _) (deleted_stays h)
    · obtain ⟨account, found⟩ := Option.isSome_iff_exists.mp found
      refine .inl (Rooted.apply (.inr ?_) _)
      obtain ⟨-, written | ⟨-, found⟩⟩ := View.account?_eq_some.mp found
      · exact .inl (Option.isSome_iff_exists.mpr ⟨_, written⟩)
      · exact .inr (Option.isSome_iff_exists.mpr ⟨_, found⟩)

theorem Referred.named_happened {id : AccountId} (r : sys.Referred) (h : Happened sys sys')
    (names : sys'.store.committed.Names id) :
    (sys'.store.committed.accounts.get? id).isSome ∨ Deleted sys'.history id := by
  have before : sys.store.committed.Names id →
      (sys'.store.committed.accounts.get? id).isSome ∨ Deleted sys'.history id := fun names =>
    (r.named names).elim (r.linked.booked.account_stays h) fun deleted =>
      .inr (deleted_stays h deleted)
  cases recorded h with
  | same committed => exact before (committed ▸ names)
  | @commit name tx own author opened _ committed =>
    have view : (sys.store.view tx default).own = own := ownOf_eq opened
    have published : sys'.store.committed = (sys.store.view tx default).published :=
      committed.trans (view_published opened default).symm
    rw [published] at names
    rcases names_published names with names | names
    · exact before names
    · rw [view] at names
      have live := (r.linked.referring opened).live names
      rcases r.naming opened names with rooted | deleted
      · have there := account_published (v := sys.store.view tx default)
          (view.symm ▸ rooted.resolve_left live) (view.symm ▸ live)
        exact .inl (published ▸ there)
      · exact .inr (deleted_stays h deleted)

theorem Referred.seen_happened {own : Transaction} (t : sys.Tidy) (g : sys.Guarded)
    (r : sys.Referred) (h : Happened sys sys') (committed : sys'.store.committed.UsersThere)
    (opened : sys'.store.transaction? tx = some own) :
    (sys'.store.committed.publish own.written own.deleted).UsersThere := by
  refine open_happened
    (motive := fun own _ => (sys'.store.committed.publish own.written own.deleted).UsersThere)
    t g h opened ⟨committed.user⟩ (fun before _ => ?_) fun {deed _} was does _ same => ?_
  · exact (r.seen before).spare committed (user_stays h)
  · rw [same]
    exact Tables.UsersThere.apply (v := sys.store.view tx deed.now) (r.seen was)
      does.did

theorem Referred.happened (t : sys.Tidy) (g : sys.Guarded) (r : sys.Referred)
    (h : Happened sys sys') : sys'.Referred := by
  have committed : sys'.store.committed.UsersThere := by
    cases recorded h with
    | same committed => exact committed ▸ r.committed
    | commit _ opened _ committed => exact committed ▸ r.seen opened
  exact {
    linked := r.linked.happened t g h
    committed
    seen := r.seen_happened t g h committed
    named := r.named_happened h
    naming := r.naming_happened t g h
    intact := fun anchored => (r.intact (.before h anchored)).happened t g r.linked h anchored }

-- ---------------------------------------------------------------------------
-- Runs
-- ---------------------------------------------------------------------------

/-- What is promised of the rows that others refer to. -/
structure References (sys : System Result) : Prop where
  sessions : ∀ {id row}, sys.store.committed.sessions.get? id = some row →
    (sys.store.committed.users.get? row.username).isSome
  /-- An account that an entry or a transfer names is there or was deleted. -/
  named : ∀ {id}, sys.store.committed.Names id →
    (sys.store.committed.accounts.get? id).isSome ∨ Deleted sys.history id
  /-- It is there when all who have named it had locked it. -/
  anchored : ∀ {id}, Anchored sys.history id → sys.store.committed.Names id →
    (sys.store.committed.accounts.get? id).isSome

theorem references_run (connections : Nat) (programs : (name : Name) → Program (Result name))
    (happenings : List (Happening Name)) :
    ((start connections programs).run happenings).References := by
  have r : ((start connections programs).run happenings).Referred :=
    run_induction (.start ..) (fun _ _ t g r h => r.happened t g h) happenings
  exact ⟨r.committed.user, r.named, fun anchored => (r.intact anchored).named⟩

/-- An account is opened, an entry is made on it, and it is deleted. -/
inductive Bookkeeping
  | account | entry | deletion
  deriving DecidableEq

def Bookkeeping.query : Bookkeeping → Query
  | account => .createAccount ⟨"alice", 0, .usd⟩
  | entry => .createEntry ⟨⟨1⟩, 5⟩
  | deletion => .deleteAccount ⟨1⟩

/-- The account is deleted while the transaction with the entry is open. -/
def deletion : List (Happening Bookkeeping) :=
  steps .account 8 ++ steps .entry 3 ++ steps .deletion 8 ++ steps .entry 5

theorem entry_dangling :
    let sys := (start 2 fun name : Bookkeeping => name.query.run).run deletion
    sys.store.committed.entries.values.map (·.accountId) = [⟨1⟩] ∧
      sys.store.committed.accounts.values = [] := by
  decide +kernel

end System

end Store

end Passbook
