import Passbook.Proofs.AmongOthers

/-!
# Rows that are not there

Queries name rows that must be there: those that they read, change or refer to. When the transaction
sees no such row, the query fails and says which row it missed, before it finds fault with anything
else (`absence_reported`). One query finds fault with something else first: a user who is given an
address is not looked for before it is known that the address is free, so that a name that nobody
has can be answered with a conflict (`absence_contested`).
-/

namespace Passbook

open Store Plan

/-- What names a row. -/
inductive RowName
  | account (id : AccountId)
  | entry (id : EntryId)
  | transfer (id : TransferId)
  | user (username : String)
  | session (id : SessionId)
  | message (id : OutboxId)
  deriving DecidableEq

/-- The error that says that there is no such row. -/
def RowName.missing : RowName → Error
  | account id => .notFound "account" id.render
  | entry id => .notFound "entry" id.render
  | transfer id => .notFound "transfer" id.render
  | user username => .notFound "user" username
  | session id => .notFound "session" id.render
  | message id => .notFound "outbox message" id.render

/-- There is such a row. -/
def Store.View.has (v : View) : RowName → Bool
  | .account id => (v.account? id).isSome
  | .entry id => (v.entry? id).isSome
  | .transfer id => (v.transfer? id).isSome
  | .user username => (v.user? username).isSome
  | .session id => (v.session? id).isSome
  | .message id => (v.message? id).isSome

namespace Query

/-- The rows that must be there, in the order in which they are looked for. -/
def names : Query → List RowName
  | getAccount id | lockAccount id | deleteAccount id => [.account id]
  | setBalance overwrite => [.account overwrite.id]
  | adjustBalance a => [.account a.accountId]
  | createEntry entry => [.account entry.accountId]
  | createTransfer transfer => [.account transfer.fromAccountId, .account transfer.toAccountId]
  | getEntry id => [.entry id]
  | getTransfer id => [.transfer id]
  | getUser username => [.user username]
  | updateUser changes => [.user changes.username]
  | changePassword change => [.user change.username]
  | createSession session => [.user session.username]
  | getSession id | revokeSession id => [.session id]
  | markDelivered id _ | markFailed id _ _ => [.message id]
  | createAccount _ | listAccounts _ | listEntries _ | listTransfers _ | createUser _ | enqueue _
  | claim .. | listMessages .. => []

/-- A balance that is set is not negative, and an amount that is moved is positive. -/
def Sound : Query → Prop
  | setBalance overwrite => ¬overwrite.balance < 0
  | createTransfer transfer => ¬transfer.amount ≤ 0
  | _ => True

/-- The first row that must be there and is not. -/
def missing? (q : Query) (v : View) : Option RowName := q.names.find? fun name => !v.has name

/-- The address that the query gives to a user, although another one has it. -/
def contested? (v : View) : Query → Option String
  | updateUser changes =>
    changes.email.filter fun email => v.isEmailTaken email (some changes.username)
  | _ => none

end Query

namespace Store

-- ---------------------------------------------------------------------------
-- Plans
-- ---------------------------------------------------------------------------

namespace Plan.Comes

variable {rows : Tables} {taken : RowKey → Bool} {own : Transaction} {e : Error}

/-- The plan fails with the error. -/
abbrev Fails (rows : Tables) (taken : RowKey → Bool) (own : Transaction) (e : Error)
    (plan : Plan α) : Prop := plan.Comes rows taken own (· = e) fun _ _ => False

theorem read_fails {answer : View → Except Error α}
    (h : ∀ now, answer (.mk rows own now) = .error e) :
    Fails rows taken own e (Plan.read answer) :=
  read (fun now _ refused => (Except.error.inj ((h now).symm.trans refused)).symm)
    fun now _ answered => nomatch (h now).symm.trans answered

theorem write_fails {made : α → Change} {answer : View → Except Error α}
    (h : ∀ now, answer (.mk rows own now) = .error e) :
    Fails rows taken own e (Plan.write made answer) :=
  write (fun now _ refused => (Except.error.inj ((h now).symm.trans refused)).symm)
    fun now _ answered => nomatch (h now).symm.trans answered

theorem check_passes {next : Plan α} (h : Fails rows taken own e next) {passed : Except Error Unit}
    (sound : passed = .ok ()) : Fails rows taken own e (Plan.check passed next) := by
  rw [sound]
  exact h

theorem insert_fails {allowed : View → Except Error Unit} {made : α → Change}
    {new : Id kind → Instant → α} (h : ∀ now, allowed (.mk rows own now) = .error e) :
    Fails rows taken own e (Plan.insert kind allowed made new) := by
  intro now
  dsimp only
  rw [h now]
  exact rfl

end Plan.Comes

open Plan.Comes

section

variable {rows : Tables} {taken : RowKey → Bool} {own : Transaction} {name : RowName}

theorem require_missing [ToString κ] {entity : String} {key : κ} {found : Option α}
    (gone : found.isSome = false) :
    View.require entity key found = .error (.notFound entity (toString key)) := by
  rw [Option.isSome_eq_false_iff, Option.isNone_iff_eq_none] at gone
  rw [gone]
  rfl

/-- A query that names one row misses that row or none. -/
theorem missing?_one {v : View} {q : Query} {only : RowName} (names : q.names = [only])
    (h : q.missing? v = some name) : v.has only = false ∧ name = only := by
  rw [Query.missing?, names, List.find?_singleton] at h
  split at h
  · next gone => exact ⟨by simpa using gone, (Option.some.inj h).symm⟩
  · cases h

theorem changeUser_fails {username : String} {update : User → User}
    (gone : (View.mk rows own default).has (.user username) = false)
    (free : taken (.username username) = false) :
    Fails rows taken own (RowName.user username).missing (Plan.changeUser username update) :=
  ⟨free, write_fails fun _ => map_error (require_missing gone)⟩

/-- The source of a transfer is looked for first. -/
theorem createTransfer_missing {transfer : NewTransfer} (positive : ¬transfer.amount ≤ 0)
    (missed : (Query.createTransfer transfer).missing? (.mk rows own default) = some name) :
    Fails rows taken own name.missing (Plan.createTransfer transfer) := by
  refine check_passes (insert_fails fun now => ?_) (if_neg positive)
  cases source : (View.mk rows own now).has (.account transfer.fromAccountId) with
  | false =>
    have first : RowName.account transfer.fromAccountId = name := by
      have source : (View.mk rows own default).has (.account _) = false := source
      simpa [Query.missing?, Query.names, source] using missed
    exact first ▸ bind_error (require_missing source)
  | true =>
    obtain ⟨row, found⟩ := Option.isSome_iff_exists.mp source
    have there : (!(View.mk rows own default).has (.account transfer.fromAccountId)) = false :=
      congrArg not source
    rw [Query.missing?, Query.names, List.find?_cons, there] at missed
    have names : (Query.getAccount transfer.toAccountId).names =
      [.account transfer.toAccountId] := rfl
    obtain ⟨gone, rfl⟩ := missing?_one names missed
    have passes : (View.mk rows own now).requireAccount transfer.fromAccountId = .ok row :=
      require_ok.mpr found
    have refused : (View.mk rows own now).requireAccount transfer.toAccountId = .error _ :=
      require_missing gone
    simp only [passes, refused, bind, Except.bind]
    exact rfl

/-- A user that is missing is reported once the address has been found free. -/
theorem updateUser_missing {changes : UserChanges}
    (gone : (View.mk rows own default).has (.user changes.username) = false)
    (uncontested : (Query.updateUser changes).contested? (.mk rows own default) = none)
    (free : ∀ key ∈ (Query.updateUser changes).keys, taken key = false) :
    Fails rows taken own (RowName.user changes.username).missing (Plan.updateUser changes) := by
  have named := free (.username changes.username) List.mem_cons_self
  unfold Plan.updateUser
  simp only [Query.contested?] at uncontested
  cases given : changes.email with
  | none => exact changeUser_fails gone named
  | some email =>
    have addressed : taken (.email email) = false := free _ (by simp [Query.keys, given])
    refine ⟨addressed, fun now => ?_⟩
    have untaken : (View.mk rows own now).isEmailTaken email (some changes.username) = false := by
      rw [given, Option.filter_some_eq_none] at uncontested
      exact Bool.eq_false_iff.mpr uncontested
    simp only [untaken]
    exact changeUser_fails gone named

/-- A query that misses a row, and has no conflict to report first, says so. -/
theorem plan_missing {q : Query} (sound : q.Sound)
    (missed : q.missing? (.mk rows own default) = some name)
    (uncontested : q.contested? (.mk rows own default) = none)
    (free : ∀ key ∈ q.keys, taken key = false) : Fails rows taken own name.missing q.plan := by
  cases q with
  | getAccount _ | getEntry _ | getTransfer _ | getUser _ | getSession _ =>
    obtain ⟨gone, rfl⟩ := missing?_one rfl missed
    exact read_fails fun _ => require_missing gone
  | lockAccount id =>
    obtain ⟨gone, rfl⟩ := missing?_one rfl missed
    exact ⟨free _ (List.mem_singleton_self _), read_fails fun _ => require_missing gone⟩
  | setBalance overwrite =>
    obtain ⟨gone, rfl⟩ := missing?_one rfl missed
    refine check_passes ?_ (if_neg sound)
    refine ⟨free _ (List.mem_singleton_self _), ?_⟩
    exact write_fails fun _ => bind_error (require_missing gone)
  | adjustBalance a =>
    obtain ⟨gone, rfl⟩ := missing?_one rfl missed
    refine ⟨free _ (List.mem_singleton_self _), ?_⟩
    exact write_fails fun _ => bind_error (require_missing gone)
  | deleteAccount id =>
    obtain ⟨gone, rfl⟩ := missing?_one rfl missed
    refine ⟨free _ (List.mem_singleton_self _), fun now => ?_⟩
    have refused : (View.mk rows own now).requireAccount id = .error _ := require_missing gone
    simp only [refused, bind, Except.bind]
    exact rfl
  | createEntry entry =>
    obtain ⟨gone, rfl⟩ := missing?_one rfl missed
    exact insert_fails fun _ => map_error (require_missing gone)
  | createTransfer transfer => exact createTransfer_missing sound missed
  | updateUser changes =>
    obtain ⟨gone, rfl⟩ := missing?_one rfl missed
    exact updateUser_missing gone uncontested free
  | changePassword change =>
    obtain ⟨gone, rfl⟩ := missing?_one rfl missed
    exact changeUser_fails gone (free _ (List.mem_singleton_self _))
  | createSession session =>
    obtain ⟨gone, rfl⟩ := missing?_one rfl missed
    exact write_fails fun _ => bind_error (require_missing gone)
  | revokeSession id =>
    obtain ⟨gone, rfl⟩ := missing?_one rfl missed
    exact write_fails fun _ => map_error (require_missing gone)
  | markDelivered _ _ | markFailed _ _ _ =>
    obtain ⟨gone, rfl⟩ := missing?_one rfl missed
    refine ⟨free _ (List.mem_singleton_self _), ?_⟩
    exact write_fails fun _ => map_error (require_missing gone)
  | _ => cases missed

/-- A query that has found a conflict fails with it. -/
theorem plan_contested {q : Query} {email : String}
    (contested : q.contested? (.mk rows own default) = some email)
    (free : ∀ key ∈ q.keys, taken key = false) :
    Fails rows taken own (.conflict s!"email {email} already exists") q.plan := by
  cases q with
  | updateUser changes =>
    obtain ⟨given, other⟩ := Option.filter_eq_some_iff.mp contested
    simp only [Query.plan, Plan.updateUser, given]
    refine ⟨free _ (by simp [Query.keys, given]), fun now => ?_⟩
    have other : (View.mk rows own now).isEmailTaken email (some changes.username) := other
    simp only [other, if_true]
    exact rfl
  | _ => cases contested

theorem plan_refused {q : Query} (sound : q.Sound)
    (missed : q.missing? (.mk rows own default) = some name)
    (free : ∀ key ∈ q.keys, taken key = false) : ∃ e, Fails rows taken own e q.plan ∧
      (q.contested? (.mk rows own default) = none → e = name.missing) ∧
      ∀ email, q.contested? (.mk rows own default) = some email →
        e = .conflict s!"email {email} already exists" := by
  cases contested : q.contested? (.mk rows own default) with
  | none =>
    refine ⟨_, plan_missing sound missed contested free, fun _ => rfl, ?_⟩
    rintro _ ⟨⟩
  | some email =>
    refine ⟨_, plan_contested contested free, fun no => (nomatch no), ?_⟩
    rintro _ ⟨⟩
    rfl

end

-- ---------------------------------------------------------------------------
-- Systems
-- ---------------------------------------------------------------------------

namespace System

variable {Name : Type} [DecidableEq Name] {Result : Name → Type}

/-- A task is about to make a query in its open transaction. Rows that the query names are not seen
there, and the locks that it asks for are free or the transaction's own. Then it fails, without any
effect, and says which row is missing: the first that it has looked for. Only when it was to give a
user an address that is another user's does it say that instead. -/
theorem absence_reported (q : Query) (name : Name) (tx : TxId) (connections : Nat)
    (programs : (name : Name) → Program (Result name)) (happenings : List (Happening Name))
    (next : Except Error q.Row → Program (Result name))
    (around : Nat → Instant × Except String Unit) :
    let sys := (start connections programs).run happenings
    sys.tasks name = some ⟨some tx, .ready (.ask (.inside (.query q)) next)⟩ → q.Sound →
    (∀ key ∈ q.keys, sys.store.holder? key = none ∨ sys.store.Holds tx key) →
    ∀ absent, q.missing? (sys.store.view tx default) = some absent →
      ∃ count e,
        let after := sys.run (attended name around count sys)
        after.tasks name = some ⟨some tx, .ready (next (.error e))⟩ ∧
          (q.contested? (sys.store.view tx default) = none → e = absent.missing) ∧
          (∀ email, q.contested? (sys.store.view tx default) = some email →
            e = .conflict s!"email {email} already exists") ∧
          after.store.committed = sys.store.committed ∧
          after.store.transaction? tx = sys.store.transaction? tx := by
  intro sys task sound free absent missed
  have tidy : sys.Tidy := tidy_run connections programs happenings
  obtain ⟨own, opened⟩ := Option.isSome_iff_exists.mp (tidy.opened (txOf_eq task))
  have amid := (ordered_run connections programs happenings).amid opened
  have free : ∀ key ∈ q.keys, sys.store.takenBeside tx key = false := fun key hk =>
    (amid.available_iff key).mpr (free key hk)
  rw [amid.view] at missed ⊢
  obtain ⟨e, fails, tells⟩ := plan_refused sound missed free
  have course : Attends (fun _ s p => p = ⟨some tx, .ready (next (.error e))⟩ ∧
      s.committed = sys.store.committed ∧ s.transaction? tx = some own) [] sys.store _ :=
    .query fails amid
      (fun {e'} _ (failed : e' = e) amid => .here ⟨by rw [failed], amid.committed, amid.own⟩)
      fun no => no.elim
  obtain ⟨count, _, there, rfl, committed, kept⟩ := course.run sys task around
  exact ⟨count, e, there, tells.1, tells.2, committed, kept.trans opened.symm⟩

/-- Nobody is called bob. -/
theorem absence_reported_user :
    let q : Query := .updateUser { username := "bob", email := some "b@x" }
    let program : Program (Except Error User) :=
      .ask .begin fun _ => .ask (.inside (.query q)) .done
    let sys := (start 1 fun _ : Unit => program).run (steps () 1)
    ∃ count, (sys.run (attended () (fun _ => (default, .ok ())) count sys)).tasks () =
      some ⟨some 0, .ready (.done (.error (.notFound "user" "bob")))⟩ := by
  intro q program sys
  obtain ⟨count, e, there, missing, -⟩ := absence_reported q () 0 1 (fun _ : Unit => program)
    (steps () 1) .done (fun _ => (default, .ok ())) rfl trivial (fun _ _ => .inl rfl) (.user "bob")
    (by decide +kernel)
  obtain rfl := missing (by decide +kernel)
  exact ⟨count, there⟩

/-- A user is created, and another one, who is not there, is to get the same address. -/
def sharing : Fin 2 → Program (Except Error User)
  | 0 => Query.run (.createUser ⟨"alice", "Alice", "a@x", "h"⟩)
  | 1 => Query.run (.updateUser { username := "bob", email := some "a@x" })

/-- Nobody is called bob, but what is reported is that the address is not free. -/
theorem absence_contested :
    let sys := (start 1 sharing).run (steps 0 8)
    sys.store.committed.users.get? "bob" = none ∧ sys.store.locks = [] ∧
      ((sys.run (steps 1 8)).tasks 1).bind Process.result? =
        some (.error (.conflict "email a@x already exists")) := by
  decide +kernel

end System

end Store

end Passbook
