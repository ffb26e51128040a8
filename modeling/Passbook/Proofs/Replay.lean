import Passbook.Proofs.Record

/-!
# Replay

The record of a system is a serial run of it. Each committed transaction is done again, alone and
in the order of the commits, with the numbers and clocks that it had. Everything that it did to
accounts, users and messages succeeds again with the same row, and in the end accounts, users and
messages are the committed ones (`replay_history`): no update is ever lost.

Entries, transfers and sessions are left out of a replay. No query on the other three kinds of rows
looks at them, save the check for references before an account is deleted.
-/

namespace Passbook

/-- The query changes accounts, users or messages. -/
def Query.isReplayed : Query → Bool
  | .createAccount _ | .setBalance _ | .adjustBalance _ | .deleteAccount _ | .createUser _
  | .updateUser _ | .changePassword _ | .enqueue _ | .markDelivered .. | .markFailed .. => true
  | _ => false

instance Query.decEqRow : (q : Query) → DecidableEq q.Row
  | .createAccount _ | .getAccount _ | .lockAccount _ | .setBalance _ | .adjustBalance _ =>
    inferInstanceAs (DecidableEq Account)
  | .listAccounts _ => inferInstanceAs (DecidableEq (List Account))
  | .deleteAccount _ => inferInstanceAs (DecidableEq Unit)
  | .createEntry _ | .getEntry _ => inferInstanceAs (DecidableEq Entry)
  | .listEntries _ => inferInstanceAs (DecidableEq (List Entry))
  | .createTransfer _ | .getTransfer _ => inferInstanceAs (DecidableEq Transfer)
  | .listTransfers _ => inferInstanceAs (DecidableEq (List Transfer))
  | .createUser _ | .getUser _ | .updateUser _ | .changePassword _ =>
    inferInstanceAs (DecidableEq User)
  | .createSession _ | .getSession _ | .revokeSession _ => inferInstanceAs (DecidableEq Session)
  | .enqueue _ | .markDelivered .. | .markFailed .. =>
    inferInstanceAs (DecidableEq Outbox.Message)
  | .claim .. | .listMessages .. => inferInstanceAs (DecidableEq (List Outbox.Message))

namespace Store

-- ---------------------------------------------------------------------------
-- Doing it again
-- ---------------------------------------------------------------------------

def Deed.isReplayed (d : Deed) : Bool := d.query.isReplayed

/-- What a transaction that is alone on a store sees. -/
def alone (committed : Tables) (own : Transaction) (now : Instant) : View :=
  ⟨committed, own, now⟩

/-- What a query comes to when it is done again, alone and with all the locks that it wants. -/
def Deed.again (committed : Tables) (own : Transaction) (d : Deed) :
    Except Error (d.query.Row × Change) :=
  d.query.plan.outcome (alone committed own d.now) (.assign (d.query.number? d.row)) []

/-- What has been written once a query is done again; nothing when it fails or its row is another
one this time. -/
def Deed.redo (committed : Tables) (own : Transaction) (d : Deed) : Option Transaction :=
  match d.again committed own with
  | .ok (row, change) => if row = d.row then some (own.apply change) else none
  | .error _ => none

theorem redo_eq_some {committed : Tables} {own own' : Transaction} {d : Deed} :
    d.redo committed own = some own' ↔
      ∃ change, d.again committed own = .ok (d.row, change) ∧ own.apply change = own' := by
  unfold Deed.redo
  cases d.again committed own with
  | error e => simp
  | ok done =>
    obtain ⟨row, change⟩ := done
    by_cases h : row = d.row <;> simp [h]

def redo (committed : Tables) (own : Transaction) (deeds : List Deed) : Option Transaction :=
  deeds.foldlM (fun own d => d.redo committed own) own

def Commit.redo (committed : Tables) (c : Commit Name) : Option Tables :=
  (Store.redo committed {} (c.deeds.filter Deed.isReplayed)).map fun own =>
    committed.publish own.written own.deleted

/-- The committed rows once all transactions are done again, one after the other, in a store that
was empty. -/
def replay (history : List (Commit Name)) : Option Tables := history.foldlM Commit.redo {}

section

variable {motive : Tables → Transaction → List Deed → Prop}
  {committed last : Tables} {own own' : Transaction} {before : List Deed}

theorem redo_keyed {deeds : List Deed} (keyed : own.written.Keyed)
    (h : redo committed own deeds = some own') : own'.written.Keyed := by
  induction deeds generalizing own with
  | nil =>
    obtain rfl := Option.some.inj h
    exact keyed
  | cons d rest ih =>
    obtain ⟨middle, hd, hrest⟩ := Option.bind_eq_some_iff.mp h
    obtain ⟨change, -, rfl⟩ := redo_eq_some.mp hd
    exact ih (keyed.apply change) hrest

/-- What every further deed preserves holds once some deeds are done again. -/
theorem redo_induction {deeds : List Deed}
    (did : ∀ {committed own deeds d number change}, motive committed own deeds →
      d.query.Did (alone committed own d.now) number d.row change →
        motive committed (own.apply change) (deeds ++ [d]))
    (keyed : committed.Keyed) (keyed' : own.written.Keyed) (first : motive committed own before)
    (h : redo committed own deeds = some own') : motive committed own' (before ++ deeds) := by
  induction deeds generalizing own before with
  | nil =>
    obtain rfl := Option.some.inj h
    rwa [List.append_nil]
  | cons d rest ih =>
    obtain ⟨middle, hd, hrest⟩ := Option.bind_eq_some_iff.mp h
    obtain ⟨change, done, rfl⟩ := redo_eq_some.mp hd
    have next := ih (keyed'.apply change) (did first (Query.did ⟨keyed, keyed'⟩ ⟨[], done⟩)) hrest
    rwa [List.append_assoc] at next

/-- What every further deed and every commit preserve holds after a replay. -/
theorem replay_induction {history : List (Commit Name)}
    (did : ∀ {committed own deeds d number change}, motive committed own deeds →
      d.query.Did (alone committed own d.now) number d.row change →
        motive committed (own.apply change) (deeds ++ [d]))
    (published : ∀ {committed own deeds}, motive committed own deeds →
      motive (committed.publish own.written own.deleted) {} deeds)
    (keyed : committed.Keyed) (first : motive committed {} before)
    (h : history.foldlM Commit.redo committed = some last) :
    motive last {} (before ++ (deedsOf history).filter Deed.isReplayed) := by
  induction history generalizing committed before with
  | nil =>
    obtain rfl := Option.some.inj h
    rwa [deedsOf, List.flatMap_nil, List.filter_nil, List.append_nil]
  | cons c rest ih =>
    obtain ⟨middle, hc, hrest⟩ := Option.bind_eq_some_iff.mp h
    obtain ⟨own, hown, rfl⟩ := Option.map_eq_some_iff.mp hc
    have shown : (alone committed own default).Keyed := ⟨keyed, redo_keyed .empty hown⟩
    have next := ih shown.published (published (redo_induction did keyed .empty first hown)) hrest
    rwa [List.append_assoc, ← List.filter_append] at next

end

-- ---------------------------------------------------------------------------
-- Accounts, users and messages
-- ---------------------------------------------------------------------------

/-- The rows that are replayed. -/
def Tables.core (t : Tables) : Tables :=
  { accounts := t.accounts, users := t.users, messages := t.messages }

def Transaction.core (t : Transaction) : Transaction := { t with written := t.written.core }

theorem Transaction.core_apply {q : Query} {row : q.Row} (own : Transaction)
    (did : q.Did v number row change) :
    (own.apply change).core = if q.isReplayed then own.core.apply change else own.core := by
  cases did with
  | @read q _ _ => cases q <;> rfl
  | _ => rfl

variable {v : View} {held : RowKey → Prop} {committed : Tables}

/-- An account whose lock is held is the same when it is done again. -/
theorem alone_account? {id : AccountId} (spared : Tables.Spared held v.committed committed)
    (hk : held (.account id)) (now : Instant) :
    (alone committed.core v.own.core now).account? id = v.account? id := by
  have h := spared.account hk
  simp only [View.account?, alone, Tables.core, Transaction.core, h]

theorem alone_user? (spared : Tables.Spared held v.committed committed)
    (hk : held (.username name)) (now : Instant) :
    (alone committed.core v.own.core now).user? name = v.user? name := by
  have h := spared.user hk
  simp only [View.user?, alone, Tables.core, Transaction.core, h]

theorem alone_message? {id : OutboxId} (spared : Tables.Spared held v.committed committed)
    (hk : held (.outbox id)) (now : Instant) :
    (alone committed.core v.own.core now).message? id = v.message? id := by
  have h := spared.message hk
  simp only [View.message?, alone, Tables.core, Transaction.core, h]

theorem alone_isEmailTaken (spared : Tables.Spared held v.committed committed)
    (hk : held (.email email)) (free : v.isEmailTaken email except = false) (now : Instant) :
    (alone committed.core v.own.core now).isEmailTaken email except = false := by
  have same : (alone committed v.own now).isEmailTaken email except = false :=
    View.isEmailTaken_spared (v := v) rfl spared hk free
  exact same

theorem alone_isReferenced (id : AccountId) (now : Instant) :
    (alone committed.core v.own.core now).isReferenced id = false := rfl

/-- What a query has done when its locks were held it does again. -/
theorem outcome_alone {q : Query} {row : q.Row} (did : q.Did v number row change)
    (hq : q.isReplayed) (spared : Tables.Spared held v.committed committed)
    (locked : ∀ key ∈ q.locks row, held key) :
    q.plan.outcome (alone committed.core v.own.core v.now) number [] = .ok (row, change) := by
  cases did with
  | createAccount valid hr => exact Plan.createAccount_ok.mpr ⟨valid, hr, rfl⟩
  | setBalance hb ho hr =>
    rw [← alone_account? spared (locked _ (List.mem_singleton_self _)) v.now] at ho
    exact Plan.setBalance_ok.mpr ⟨hb, _, ho, hr, rfl⟩
  | adjustBalance ho hn hr =>
    rw [← alone_account? spared (locked _ (List.mem_singleton_self _)) v.now] at ho
    exact Plan.changeBalance_ok.mpr ⟨_, _, ho, hn, hr, rfl⟩
  | deleteAccount ho _ =>
    rw [← alone_account? spared (locked _ (List.mem_singleton_self _)) v.now] at ho
    exact Plan.deleteAccount_ok.mpr ⟨⟨_, ho⟩, alone_isReferenced _ _, rfl⟩
  | createUser valid new free hr =>
    rw [← alone_user? spared (locked _ (by simp [Query.locks, Query.keys])) v.now] at new
    exact Plan.createUser_ok.mpr ⟨valid, new,
      alone_isEmailTaken spared (locked _ (by simp [Query.locks, Query.keys])) free v.now, hr, rfl⟩
  | updateUser free ho hr =>
    rw [← alone_user? spared (locked _ (by simp [Query.locks, Query.keys])) v.now] at ho
    refine Plan.updateUser_ok.mpr ⟨fun email he => ?_, _, ho, hr, rfl⟩
    have addressed := locked (.email email) (by simp [Query.locks, Query.keys, he])
    exact alone_isEmailTaken spared addressed (free email he) v.now
  | changePassword ho hr =>
    rw [← alone_user? spared (locked _ (List.mem_singleton_self _)) v.now] at ho
    exact Plan.changeUser_ok.mpr ⟨_, ho, hr, rfl⟩
  | enqueue hr => exact Plan.enqueue_ok.mpr ⟨hr, rfl⟩
  | markDelivered ho hr =>
    rw [← alone_message? spared (locked _ (List.mem_singleton_self _)) v.now] at ho
    exact Plan.changeMessage_ok.mpr ⟨_, ho, hr, rfl⟩
  | markFailed ho hr =>
    rw [← alone_message? spared (locked _ (List.mem_singleton_self _)) v.now] at ho
    exact Plan.changeMessage_ok.mpr ⟨_, ho, hr, rfl⟩
  | read reads => cases q <;> simp_all [Query.isReplayed, Query.reads]
  | _ => cases hq

theorem Does.redo {s : Store} {deed : Deed} {change : Change} (does : Does s tx deed change)
    (hq : deed.query.isReplayed) (spared : Tables.Spared (s.Holds tx) s.committed committed) :
    deed.redo committed.core (s.ownOf tx).core = some ((s.ownOf tx).apply change).core := by
  have locked := fun key hk => does.locked key (.inl hk)
  have done := outcome_alone does.did hq spared locked
  rw [Transaction.core_apply _ does.did, if_pos hq]
  exact redo_eq_some.mpr ⟨change, done, rfl⟩

-- ---------------------------------------------------------------------------
-- Histories
-- ---------------------------------------------------------------------------

namespace System

variable {Name : Type} [DecidableEq Name] {Result : Name → Type} {sys sys' : System Result}

/-- The history can be replayed up to now, and so can what every open transaction has done, in
any store that has the rows that it holds. -/
structure Replayed (sys : System Result) : Prop where
  committed : replay sys.history = some sys.store.committed.core
  opened : ∀ {tx own}, sys.store.transaction? tx = some own → ∀ committed,
    Tables.Spared (sys.store.Holds tx) sys.store.committed committed →
      redo committed.core {} ((sys.journals tx).filter Deed.isReplayed) = some own.core

omit [DecidableEq Name] in
theorem Replayed.start (connections : Nat) (programs : (name : Name) → Program (Result name)) :
    (start connections programs).Replayed where
  committed := rfl
  opened h := nomatch h

theorem redo_snoc (committed : Tables) (own : Transaction) (deeds : List Deed) (d : Deed) :
    redo committed own (deeds ++ [d]) =
      (redo committed own deeds).bind fun own => d.redo committed own := by
  simp [redo, List.foldlM_append]

omit [DecidableEq Name] in
theorem replay_snoc (history : List (Commit Name)) (c : Commit Name) :
    replay (history ++ [c]) = (replay history).bind c.redo := by
  simp [replay, List.foldlM_append]

theorem Replayed.happened (t : sys.Tidy) (g : sys.Guarded) (r : sys.Replayed)
    (h : Happened sys sys') : sys'.Replayed where
  committed := by
    cases recorded h with
    | same committed history => rw [committed, history, r.committed]
    | @commit name tx own _ opened _ committed history =>
      have done := r.opened opened sys.store.committed (.refl _)
      rw [history, replay_snoc, r.committed, committed, Option.bind_some, Commit.redo, done]
      rfl
  opened {tx own} opened committed spared := by
    refine open_happened (motive := fun own journal =>
        redo committed.core {} (journal.filter Deed.isReplayed) = some own.core)
      t g h opened rfl (fun before kept => ?_) fun {deed _} was does holds same => ?_
    · exact r.opened before committed (kept.spared.trans (spared.mono kept.holds))
    · have spared : Tables.Spared (sys.store.Holds tx) sys.store.committed committed :=
        same ▸ spared.mono holds
      have so_far := r.opened was committed spared
      rw [List.filter_append]
      by_cases hq : deed.isReplayed
      · rw [List.filter_cons_of_pos hq, List.filter_nil, redo_snoc, so_far]
        exact does.redo hq spared
      · have core :=
          Transaction.core_apply (sys.store.view tx deed.now).own does.did
        rw [List.filter_cons_of_neg hq, List.filter_nil, List.append_nil, so_far]
        exact congrArg some (core.trans (if_neg hq)).symm

theorem replayed_run (connections : Nat) (programs : (name : Name) → Program (Result name))
    (happenings : List (Happening Name)) : ((start connections programs).run happenings).Replayed :=
  run_induction (.start connections programs) (fun _ _ t g r h => r.happened t g h) happenings

/-- Accounts, users and messages are what comes out when all that was committed is done again, one
transaction after the other. -/
theorem replay_history (connections : Nat) (programs : (name : Name) → Program (Result name))
    (happenings : List (Happening Name)) :
    let sys := (System.start connections programs).run happenings
    replay sys.history = some
      { accounts := sys.store.committed.accounts
        users := sys.store.committed.users
        messages := sys.store.committed.messages } :=
  (replayed_run connections programs happenings).committed

end System

end Store

end Passbook
