import Passbook.Proofs.Results
import Passbook.Proofs.Rows

/-!
# What a query comes to

`Plan.outcome` carries a plan out in one go: every look sees the same rows, locks are passed over,
and the numbers that it draws are given, as is which of the locks that it tries for it gets. The
lemmas below read the success of each query that writes or claims as what it saw and what it writes.
That a plan which does have to wait, or during which others go on, comes to the same is shown
elsewhere, from the locks that it holds meanwhile.
-/

namespace Passbook.Store

-- ---------------------------------------------------------------------------
-- Results
-- ---------------------------------------------------------------------------

theorem refuse_ok {p : Prop} [Decidable p] {e : Error} {u : Unit} :
    (if p then .error e else .ok () : Except Error Unit) = .ok u ↔ ¬p := by
  split <;> simp_all

theorem require_ok [ToString κ] {entity : String} {key : κ} {found : Option α} {row : α} :
    View.require entity key found = .ok row ↔ found = some row := by
  cases found <;> simp [View.require]

-- ---------------------------------------------------------------------------
-- Plans in one go
-- ---------------------------------------------------------------------------

abbrev Numbers := (kind : RowKind) → Id kind

namespace Plan

/-- What a plan comes to, and the change that it makes, when every look sees the same rows. The
tries say of each lock that is tried for whether it is there; when they are used up, the locks are.
-/
def outcome (v : View) (number : Numbers) : Plan α → (tries : List Bool) → Except Error (α × Change)
  | .finish result, _ => result.map (·, .nothing)
  | .look next, tries => (next v).outcome v number tries
  | .draw kind next, tries => (next (number kind)).outcome v number tries
  | .lock _ rest, tries => rest.outcome v number tries
  | .tryLock _ next, tries => (next (tries.headD true)).outcome v number tries.tail
  | .stage change rest, tries => (rest.outcome v number tries).map fun done => (done.1, change)

/-- The plan can succeed with this row and this change. -/
def Succeeds (v : View) (number : Numbers) (plan : Plan α) (row : α) (change : Change) : Prop :=
  ∃ tries, plan.outcome v number tries = .ok (row, change)

variable {v : View} {number : Numbers} {tries : List Bool}

@[simp] theorem outcome_fail (e : Error) :
    (fail e : Plan α).outcome v number tries = .error e := rfl

theorem check_ok {passed : Except Error Unit} {next : Plan α} :
    (check passed next).outcome v number tries = .ok x ↔
      passed = .ok () ∧ next.outcome v number tries = .ok x := by
  cases passed <;> simp [check]

theorem read_ok {answer : View → Except Error α} :
    (read answer).outcome v number tries = .ok (row, change) ↔
      answer v = .ok row ∧ change = .nothing := by
  simp only [read, outcome, map_ok, Prod.mk.injEq]
  constructor
  · rintro ⟨_, h, rfl, rfl⟩; exact ⟨h, rfl⟩
  · rintro ⟨h, rfl⟩; exact ⟨row, h, rfl, rfl⟩

theorem write_ok {answer : View → Except Error α} {made : α → Change} :
    (write made answer).outcome v number tries = .ok (row, change) ↔
      answer v = .ok row ∧ change = made row := by
  rw [write, outcome]
  cases answer v with
  | error e => simp
  | ok answered =>
    simp only [outcome, Except.map, Except.ok.injEq, Prod.mk.injEq]
    constructor <;> (rintro ⟨rfl, rfl⟩; exact ⟨rfl, rfl⟩)

theorem insert_ok {allowed : View → Except Error Unit} {made : α → Change}
    {new : Id kind → Instant → α} :
    (insert kind allowed made new).outcome v number tries = .ok (row, change) ↔
      allowed v = .ok () ∧ row = new (number kind) v.now ∧ change = made row := by
  simp only [insert, outcome, check_ok, write_ok, Except.ok.injEq]
  constructor
  · rintro ⟨h, rfl, rfl⟩; exact ⟨h, rfl, rfl⟩
  · rintro ⟨h, rfl, rfl⟩; exact ⟨h, rfl, rfl⟩

-- ---------------------------------------------------------------------------
-- Accounts
-- ---------------------------------------------------------------------------

theorem createAccount_ok : (createAccount account).outcome v number tries = .ok (row, change) ↔
    account.validate = .ok () ∧
      row = ⟨number .account, account.owner, account.balance, account.currency, v.now⟩ ∧
      change = .account row := by
  simp only [createAccount, check_ok, outcome, write_ok, Except.ok.injEq]
  constructor
  · rintro ⟨h, rfl, rfl⟩; exact ⟨h, rfl, rfl⟩
  · rintro ⟨h, rfl, rfl⟩; exact ⟨h, rfl, rfl⟩

theorem changeBalance_ok {id : AccountId} {balance : Account → Except Error Int64} :
    (changeBalance id balance).outcome v number tries = .ok (row, change) ↔
      ∃ account next, v.account? id = some account ∧ balance account = .ok next ∧
        row = { account with balance := next } ∧ change = .account row := by
  simp only [changeBalance, outcome, write_ok, View.requireAccount, bind_ok, require_ok, pure_ok]
  constructor
  · rintro ⟨⟨account, ha, next, hn, rfl⟩, rfl⟩; exact ⟨account, next, ha, hn, rfl, rfl⟩
  · rintro ⟨account, next, ha, hn, rfl, rfl⟩; exact ⟨⟨account, ha, next, hn, rfl⟩, rfl⟩

theorem setBalance_ok {overwrite : BalanceOverwrite} :
    (setBalance overwrite).outcome v number tries = .ok (row, change) ↔
      ¬overwrite.balance < 0 ∧ ∃ account, v.account? overwrite.id = some account ∧
        row = { account with balance := overwrite.balance } ∧ change = .account row := by
  simp only [setBalance, check_ok, refuse_ok, changeBalance_ok, Except.ok.injEq]
  constructor
  · rintro ⟨h, account, _, ha, rfl, hr, hc⟩; exact ⟨h, account, ha, hr, hc⟩
  · rintro ⟨h, account, ha, hr, hc⟩; exact ⟨h, account, _, ha, rfl, hr, hc⟩

theorem deleteAccount_ok {id : AccountId} :
    (deleteAccount id).outcome v number tries = .ok (row, change) ↔
      (∃ account, v.account? id = some account) ∧ v.isReferenced id = false ∧
        change = .deleteAccount id := by
  simp only [deleteAccount, outcome, write_ok, View.requireAccount, bind_ok, require_ok]
  cases v.isReferenced id
  · simp [pure, Except.pure]
  · simp [throw, throwThe, MonadExceptOf.throw]

theorem createEntry_ok : (createEntry entry).outcome v number tries = .ok (row, change) ↔
    (∃ account, v.account? entry.accountId = some account) ∧
      row = ⟨number .entry, entry.accountId, entry.amount, v.now⟩ ∧ change = .entry row := by
  simp [createEntry, insert_ok, View.requireAccount, map_ok, require_ok]

theorem createTransfer_ok : (createTransfer transfer).outcome v number tries = .ok (row, change) ↔
    ¬transfer.amount ≤ 0 ∧ (∃ account, v.account? transfer.fromAccountId = some account) ∧
      (∃ account, v.account? transfer.toAccountId = some account) ∧
      row = ⟨number .transfer, transfer.fromAccountId, transfer.toAccountId, transfer.amount,
        v.now⟩ ∧ change = .transfer row := by
  simp only [createTransfer, check_ok, refuse_ok, insert_ok, View.requireAccount, bind_ok,
    require_ok, pure_ok]
  constructor
  · rintro ⟨h, ⟨a, ha, b, hb, -⟩, hr, hc⟩; exact ⟨h, ⟨a, ha⟩, ⟨b, hb⟩, hr, hc⟩
  · rintro ⟨h, ⟨a, ha⟩, ⟨b, hb⟩, hr, hc⟩; exact ⟨h, ⟨a, ha, b, hb, trivial⟩, hr, hc⟩

-- ---------------------------------------------------------------------------
-- Users and messages
-- ---------------------------------------------------------------------------

theorem createUser_ok : (createUser user).outcome v number tries = .ok (row, change) ↔
    user.validate = .ok () ∧ v.user? user.username = none ∧
      v.isEmailTaken user.email none = false ∧
      row = ⟨user.username, user.fullName, user.email, user.hashedPassword, v.now, none, v.now⟩ ∧
      change = .user row := by
  simp only [createUser, check_ok, outcome, write_ok]
  cases v.user? user.username <;> cases v.isEmailTaken user.email none <;>
    simp [throw, throwThe, MonadExceptOf.throw, bind, Except.bind, pure, Except.pure,
      eq_comm (a := row)]

theorem changeUser_ok {update : User → User} :
    (changeUser username update).outcome v number tries = .ok (row, change) ↔
      ∃ user, v.user? username = some user ∧ row = update user ∧ change = .user row := by
  simp only [changeUser, outcome, write_ok, View.requireUser, map_ok, require_ok]
  constructor
  · rintro ⟨⟨user, hu, rfl⟩, rfl⟩; exact ⟨user, hu, rfl, rfl⟩
  · rintro ⟨user, hu, rfl, rfl⟩; exact ⟨⟨user, hu, rfl⟩, rfl⟩

theorem updateUser_ok : (updateUser changes).outcome v number tries = .ok (row, change) ↔
    (∀ email, changes.email = some email →
      v.isEmailTaken email (some changes.username) = false) ∧
    ∃ user, v.user? changes.username = some user ∧ row = changes.applyTo user ∧
      change = .user row := by
  unfold updateUser
  cases hm : changes.email with
  | none => simp [changeUser_ok]
  | some email =>
    cases ht : v.isEmailTaken email (some changes.username) <;>
      simp [outcome, ht, changeUser_ok]

theorem changeMessage_ok {id : OutboxId} {update : Outbox.Message → Outbox.Message} :
    (changeMessage id update).outcome v number tries = .ok (row, change) ↔
      ∃ message, v.message? id = some message ∧ row = update message ∧ change = .message row := by
  simp only [changeMessage, outcome, write_ok, View.requireMessage, map_ok, require_ok]
  constructor
  · rintro ⟨⟨message, hm, rfl⟩, rfl⟩; exact ⟨message, hm, rfl, rfl⟩
  · rintro ⟨message, hm, rfl, rfl⟩; exact ⟨⟨message, hm, rfl⟩, rfl⟩

theorem enqueue_ok : (enqueue message).outcome v number tries = .ok (row, change) ↔
    row = message.record (number .outbox) v.now ∧ change = .message row := by
  simp only [enqueue, outcome, write_ok, Except.ok.injEq]
  constructor
  · rintro ⟨rfl, rfl⟩; exact ⟨rfl, rfl⟩
  · rintro ⟨rfl, rfl⟩; exact ⟨rfl, rfl⟩

theorem createSession_ok : (createSession session).outcome v number tries = .ok (row, change) ↔
    (∃ user, v.user? session.username = some user) ∧ v.session? session.id = none ∧
      row = session.issue v.now ∧ change = .session row := by
  simp only [createSession, write_ok, View.requireUser, bind_ok, require_ok]
  cases v.session? session.id <;>
    simp [throw, throwThe, MonadExceptOf.throw, bind, Except.bind, pure, Except.pure,
      eq_comm (a := row), and_assoc]

-- ---------------------------------------------------------------------------
-- Claims
-- ---------------------------------------------------------------------------

section

variable {limit : UInt32} {now : Instant} {claimed chosen messages : List Outbox.Message}
  {ids : List OutboxId}

/-- What is claimed further on are messages of the list that are seen and due, in its order. -/
theorem claimEach_ok (keyed : v.Keyed) (fits : claimed.length ≤ limit.toNat)
    (h : (claimEach limit now claimed ids).outcome v number tries = .ok (messages, change)) :
    change = .nothing ∧ messages.length ≤ limit.toNat ∧ ∃ chosen, messages = claimed ++ chosen ∧
      (chosen.map (·.id)).Sublist ids ∧ ∀ m ∈ chosen, v.message? m.id = some m ∧ m.isDue now := by
  induction ids generalizing claimed tries with
  | nil =>
    cases h
    exact ⟨rfl, fits, [], by simp⟩
  | cons id rest ih =>
    rw [claimEach] at h
    split at h
    case isTrue =>
      cases h
      exact ⟨rfl, fits, [], by simp⟩
    case isFalse room =>
    rw [outcome] at h
    cases got : tries.headD true with
    | false =>
      rw [got] at h
      obtain ⟨none, bound, chosen, same, sub, there⟩ := ih fits h
      exact ⟨none, bound, chosen, same, sub.cons id, there⟩
    | true =>
      rw [got] at h
      simp only [outcome] at h
      cases found : v.requireMessage id with
      | error e => simp [found] at h
      | ok row =>
        have seen : v.message? id = some row := require_ok.mp found
        obtain rfl : row.id = id := keyed.message seen
        simp only [found] at h
        by_cases due : row.isDue now
        · rw [if_pos due] at h
          obtain ⟨none, bound, chosen, rfl, sub, there⟩ := ih (by simp; omega) h
          refine ⟨none, bound, row :: chosen, by simp, sub.cons_cons row.id, ?_⟩
          exact List.forall_mem_cons.mpr ⟨⟨seen, due⟩, there⟩
        · rw [if_neg due] at h
          obtain ⟨none, bound, chosen, same, sub, there⟩ := ih fits h
          exact ⟨none, bound, chosen, same, sub.cons row.id, there⟩

/-- Any messages of the list that are seen and due can be the ones whose locks are there. -/
theorem claimEach_succeeds (fits : (claimed ++ chosen).length ≤ limit.toNat)
    (sub : (chosen.map (·.id)).Sublist ids)
    (there : ∀ m ∈ chosen, v.message? m.id = some m ∧ m.isDue now) :
    (claimEach limit now claimed ids).Succeeds v number (claimed ++ chosen) .nothing := by
  induction ids generalizing claimed chosen with
  | nil =>
    obtain rfl : chosen = [] := List.map_eq_nil_iff.mp (List.sublist_nil.mp sub)
    exact ⟨[], by simp [claimEach, outcome, Except.map]⟩
  | cons id rest ih =>
    rw [List.length_append] at fits
    rcases List.sublist_cons_iff.mp sub with sub | ⟨ids, same, sub⟩
    · by_cases full : limit.toNat ≤ claimed.length
      · obtain rfl : chosen = [] := List.length_eq_zero_iff.mp (by omega)
        exact ⟨[], by simp [claimEach, full, outcome, Except.map]⟩
      · obtain ⟨tries, done⟩ := ih (by simpa using fits) sub there
        exact ⟨false :: tries, by simpa [claimEach, full, outcome] using done⟩
    · obtain ⟨m, later, rfl, rfl, rfl⟩ := List.map_eq_cons_iff.mp same
      obtain ⟨⟨seen, due⟩, there⟩ := List.forall_mem_cons.mp there
      have room : ¬limit.toNat ≤ claimed.length := by
        rw [List.length_cons] at fits
        omega
      have fits : ((claimed ++ [m]) ++ later).length ≤ limit.toNat := by simpa using fits
      obtain ⟨tries, done⟩ := ih fits sub there
      have found : v.requireMessage m.id = .ok m := require_ok.mpr seen
      refine ⟨true :: tries, ?_⟩
      simpa [claimEach, room, outcome, found, due] using done

/-- After a scan, of whatever rows, a claim comes to messages that are due when it reads them. -/
theorem scanned_ok {scanned : View} (keyed : v.Keyed) (keyed' : scanned.Keyed)
    (h : (claimEach limit now [] ((scanned.messages (·.isDue now)).map (·.id))).outcome v number
      tries = .ok (messages, change)) :
    messages.Sublist (v.messages (·.isDue now)) ∧ messages.length ≤ limit.toNat ∧
      change = .nothing := by
  obtain ⟨none, bound, chosen, rfl, sub, there⟩ := claimEach_ok keyed (Nat.zero_le _) h
  refine ⟨keyed.sublist_messages ?_ there, bound, none⟩
  have ascending : ((scanned.messages (·.isDue now)).map (·.id)).Pairwise (compare · · = .lt) :=
    List.pairwise_map.mpr (keyed'.ascending_messages _)
  exact List.pairwise_map.mp (ascending.sublist sub)

/-- A claim can come to any of the messages that are due, as many as it may be, in their order. -/
theorem claim_succeeds (keyed : v.Keyed) : (claim limit now).Succeeds v number messages change ↔
    messages.Sublist (v.messages (·.isDue now)) ∧ messages.length ≤ limit.toNat ∧
      change = .nothing := by
  constructor
  · rintro ⟨tries, h⟩
    exact scanned_ok keyed keyed h
  · rintro ⟨sub, bound, rfl⟩
    refine claimEach_succeeds bound (sub.map _) fun m mem => ?_
    obtain ⟨id, seen, due⟩ := View.mem_messages.mp (sub.subset mem)
    exact ⟨(keyed.message seen).symm ▸ seen, due⟩

end

end Plan

end Passbook.Store

namespace Passbook

open Store Plan

/-- The query changes no rows and locks none. -/
def Query.reads : Query → Bool
  | .getAccount _ | .listAccounts _ | .getEntry _ | .listEntries _ | .getTransfer _
  | .listTransfers _ | .getUser _ | .getSession _ | .listMessages .. => true
  | _ => false

/-- All that a query can have done when it succeeds, in one go. -/
inductive Query.Did (v : View) (number : Numbers) : (q : Query) → q.Row → Change → Prop
  | createAccount {row : Account} : account.validate = .ok () →
      row = ⟨number .account, account.owner, account.balance, account.currency, v.now⟩ →
      Did v number (.createAccount account) row (.account row)
  | lockAccount {id : AccountId} {row : Account} : v.account? id = some row →
      Did v number (.lockAccount id) row .nothing
  | setBalance {row old : Account} : ¬overwrite.balance < 0 →
      v.account? overwrite.id = some old → row = { old with balance := overwrite.balance } →
      Did v number (.setBalance overwrite) row (.account row)
  | adjustBalance {row old : Account} : v.account? a.accountId = some old →
      old.balanceAfter a.delta = .ok next → row = { old with balance := next } →
      Did v number (.adjustBalance a) row (.account row)
  | deleteAccount {id : AccountId} {old : Account} : v.account? id = some old →
      v.isReferenced id = false →
      Did v number (.deleteAccount id) () (.deleteAccount id)
  | createEntry {row : Entry} {account : Account} : v.account? entry.accountId = some account →
      row = ⟨number .entry, entry.accountId, entry.amount, v.now⟩ →
      Did v number (.createEntry entry) row (.entry row)
  | createTransfer {row : Transfer} {source target : Account} : ¬transfer.amount ≤ 0 →
      v.account? transfer.fromAccountId = some source →
      v.account? transfer.toAccountId = some target →
      row = ⟨number .transfer, transfer.fromAccountId, transfer.toAccountId, transfer.amount,
        v.now⟩ →
      Did v number (.createTransfer transfer) row (.transfer row)
  | createUser {row : User} : user.validate = .ok () → v.user? user.username = none →
      v.isEmailTaken user.email none = false →
      row = ⟨user.username, user.fullName, user.email, user.hashedPassword, v.now, none, v.now⟩ →
      Did v number (.createUser user) row (.user row)
  | updateUser {row old : User} :
      (∀ email, changes.email = some email →
        v.isEmailTaken email (some changes.username) = false) →
      v.user? changes.username = some old → row = changes.applyTo old →
      Did v number (.updateUser changes) row (.user row)
  | changePassword {row old : User} : v.user? change.username = some old →
      row = change.applyTo old → Did v number (.changePassword change) row (.user row)
  | createSession {row : Session} {user : User} : v.user? session.username = some user →
      v.session? session.id = none → row = session.issue v.now →
      Did v number (.createSession session) row (.session row)
  | revokeSession {id : SessionId} {row old : Session} : v.session? id = some old →
      row = old.revoked →
      Did v number (.revokeSession id) row (.session row)
  | enqueue {row : Outbox.Message} : row = message.record (number .outbox) v.now →
      Did v number (.enqueue message) row (.message row)
  | claim {messages : List Outbox.Message} : messages.Sublist (v.messages (·.isDue now)) →
      messages.length ≤ limit.toNat → Did v number (.claim limit now) messages .nothing
  | markDelivered {id : OutboxId} {row old : Outbox.Message} : v.message? id = some old →
      row = old.delivered instant → Did v number (.markDelivered id instant) row (.message row)
  | markFailed {id : OutboxId} {row old : Outbox.Message} : v.message? id = some old →
      row = old.failed reason retryAt →
      Did v number (.markFailed id reason retryAt) row (.message row)
  | read {q : Query} {row : q.Row} : q.reads → Did v number q row .nothing

theorem Query.did {q : Query} {row : q.Row} (keyed : v.Keyed)
    (succeeds : q.plan.Succeeds v number row change) : q.Did v number row change := by
  obtain ⟨tries, h⟩ := succeeds
  cases q with
  | createAccount account =>
    obtain ⟨valid, hr, rfl⟩ := createAccount_ok.mp h
    exact .createAccount valid hr
  | lockAccount id =>
    have h : (Plan.read fun v => v.requireAccount id).outcome v number tries =
      .ok (row, change) := h
    obtain ⟨found, rfl⟩ := read_ok.mp h
    exact .lockAccount (require_ok.mp found)
  | setBalance overwrite =>
    obtain ⟨hb, old, ho, hr, rfl⟩ := setBalance_ok.mp h
    exact .setBalance hb ho hr
  | adjustBalance a =>
    obtain ⟨old, next, ho, hn, hr, rfl⟩ := changeBalance_ok.mp h
    exact .adjustBalance ho hn hr
  | deleteAccount id =>
    obtain ⟨⟨old, ho⟩, free, rfl⟩ := deleteAccount_ok.mp h
    exact .deleteAccount ho free
  | createEntry entry =>
    obtain ⟨⟨account, ha⟩, hr, rfl⟩ := createEntry_ok.mp h
    exact .createEntry ha hr
  | createTransfer transfer =>
    obtain ⟨hm, ⟨source, hs⟩, ⟨target, ht⟩, hr, rfl⟩ := createTransfer_ok.mp h
    exact .createTransfer hm hs ht hr
  | createUser user =>
    obtain ⟨valid, new, free, hr, rfl⟩ := createUser_ok.mp h
    exact .createUser valid new free hr
  | updateUser changes =>
    obtain ⟨free, old, ho, hr, rfl⟩ := updateUser_ok.mp h
    exact .updateUser free ho hr
  | changePassword change =>
    obtain ⟨old, ho, hr, rfl⟩ := changeUser_ok.mp h
    exact .changePassword ho hr
  | createSession session =>
    obtain ⟨⟨user, hu⟩, new, hr, rfl⟩ := createSession_ok.mp h
    exact .createSession hu new hr
  | revokeSession id =>
    obtain ⟨hr, rfl⟩ := write_ok.mp h
    obtain ⟨old, ho, rfl⟩ := map_ok.mp hr
    exact .revokeSession (require_ok.mp ho) rfl
  | enqueue message =>
    obtain ⟨hr, rfl⟩ := enqueue_ok.mp h
    exact .enqueue hr
  | claim limit now =>
    obtain ⟨sub, bound, rfl⟩ := (claim_succeeds keyed).mp ⟨tries, h⟩
    exact .claim sub bound
  | markDelivered id instant =>
    obtain ⟨old, ho, hr, rfl⟩ := changeMessage_ok.mp h
    exact .markDelivered ho hr
  | markFailed id reason retryAt =>
    obtain ⟨old, ho, hr, rfl⟩ := changeMessage_ok.mp h
    exact .markFailed ho hr
  | _ =>
    obtain ⟨-, rfl⟩ := read_ok.mp h
    exact .read rfl

end Passbook
