import Passbook.LockOrder
import Passbook.Store.Query
import Passbook.Text.Quoted

/-!
# Plans

A query is carried out inside a transaction in small parts: it takes row locks, draws numbers,
looks at the rows that the transaction sees, changes what the transaction has written, and at last
fails or succeeds. `Plan` is the language of these parts and `Query.plan` says how every query is
carried out. A change is made where it stands in the plan, whatever the parts after it come to.

Where a plan has to wait for a lock, and wherever it tries for one, other transactions can go on,
and what they commit is seen by the parts that follow.
-/
namespace Passbook.Store

open Outbox (Message NewMessage Status)

/-- What a row lock is taken on. Users are locked by their name and by their address. -/
inductive RowKey
  | account (id : AccountId)
  | username (name : String)
  | email (address : String)
  | outbox (id : OutboxId)
  deriving DecidableEq, Repr

def RowKey.render : RowKey → String
  | .account id => s!"Account(AccountId({id}))"
  | .username name => s!"Username({Text.quoted name})"
  | .email address => s!"Email({Text.quoted address})"
  | .outbox id => s!"Outbox(OutboxId({id}))"

/-- What a transaction has written so far and nobody else sees. -/
structure Transaction where
  written : Tables := {}
  deleted : List AccountId := []
  deriving DecidableEq, Inhabited

/-- What a query does to what its transaction has written. -/
inductive Change
  | nothing
  | account (row : Account)
  | deleteAccount (id : AccountId)
  | entry (row : Entry)
  | transfer (row : Transfer)
  | user (row : User)
  | session (row : Session)
  | message (row : Message)
  deriving DecidableEq

def Transaction.apply (t : Transaction) : Change → Transaction
  | .nothing => t
  | .account row => { t with written.accounts := t.written.accounts.insert row.id row }
  | .deleteAccount id =>
    { t with
      written.accounts := t.written.accounts.erase id
      deleted := id :: t.deleted }
  | .entry row => { t with written.entries := t.written.entries.insert row.id row }
  | .transfer row => { t with written.transfers := t.written.transfers.insert row.id row }
  | .user row => { t with written.users := t.written.users.insert row.username row }
  | .session row => { t with written.sessions := t.written.sessions.insert row.id row }
  | .message row => { t with written.messages := t.written.messages.insert row.id row }

/-- What a transaction sees: the committed rows, with its own rows in front of them. -/
structure View where
  committed : Tables
  own : Transaction
  now : Instant

namespace View

variable (v : View)

/-- The row of an account, unless there is none or the transaction has deleted it. -/
def account? (id : AccountId) : Option Account :=
  if id ∈ v.own.deleted then none
  else v.own.written.accounts.get? id <|> v.committed.accounts.get? id

def entry? (id : EntryId) : Option Entry :=
  v.own.written.entries.get? id <|> v.committed.entries.get? id

def transfer? (id : TransferId) : Option Transfer :=
  v.own.written.transfers.get? id <|> v.committed.transfers.get? id

def user? (username : String) : Option User :=
  v.own.written.users.get? username <|> v.committed.users.get? username

def session? (id : SessionId) : Option Session :=
  v.own.written.sessions.get? id <|> v.committed.sessions.get? id

def message? (id : OutboxId) : Option Message :=
  v.own.written.messages.get? id <|> v.committed.messages.get? id

/-- The rows of the accounts that pass a test, in the order of their numbers. -/
def accounts (keep : Account → Bool) : List Account :=
  (v.committed.accounts.overlayFilter v.own.written.accounts fun row =>
    row.id ∉ v.own.deleted && keep row).values

def entries (keep : Entry → Bool) : List Entry :=
  (v.committed.entries.overlayFilter v.own.written.entries keep).values

def transfers (keep : Transfer → Bool) : List Transfer :=
  (v.committed.transfers.overlayFilter v.own.written.transfers keep).values

def users (keep : User → Bool) : List User :=
  (v.committed.users.overlayFilter v.own.written.users keep).values

def messages (keep : Message → Bool) : List Message :=
  (v.committed.messages.overlayFilter v.own.written.messages keep).values

/-- A row that must be there. -/
def require {α κ : Type} [ToString κ] (entity : String) (key : κ) : Option α → Except Error α
  | some row => .ok row
  | none => .error (.notFound entity (toString key))

def requireAccount (id : AccountId) : Except Error Account := require "account" id (v.account? id)

def requireEntry (id : EntryId) : Except Error Entry := require "entry" id (v.entry? id)

def requireTransfer (id : TransferId) : Except Error Transfer :=
  require "transfer" id (v.transfer? id)

def requireUser (username : String) : Except Error User :=
  require "user" username (v.user? username)

def requireSession (id : SessionId) : Except Error Session :=
  require "session" id (v.session? id)

def requireMessage (id : OutboxId) : Except Error Message :=
  require "outbox message" id (v.message? id)

/-- An address belongs to a user other than the one excepted. -/
def isEmailTaken (email : String) (except : Option String) : Bool :=
  (v.users (·.email = email)).any fun user => some user.username ≠ except

/-- Entries or transfers name the account. What other transactions have written is not seen. -/
def isReferenced (id : AccountId) : Bool :=
  let inEntries (t : Tables) := t.entries.values.any (·.accountId = id)
  let inTransfers (t : Tables) :=
    t.transfers.values.any fun row => row.fromAccountId = id || row.toAccountId = id
  inEntries v.committed || inEntries v.own.written || inTransfers v.committed
    || inTransfers v.own.written

end View

def page {α : Type} (rows : List α) (limit offset : UInt32) : List α :=
  (rows.drop offset.toNat).take limit.toNat

/-- How a query is carried out, part by part. -/
inductive Plan (α : Type)
  | finish (outcome : Except Error α)
  | look (next : View → Plan α)
  | draw (kind : RowKind) (next : Id kind → Plan α)
  /-- Waits for the lock as long as somebody else has it. -/
  | lock (key : RowKey) (next : Plan α)
  /-- Takes the lock unless somebody else has it, and learns whether it is there now. -/
  | tryLock (key : RowKey) (next : Bool → Plan α)
  | stage (change : Change) (next : Plan α)

namespace Plan

variable {α : Type}

def fail (e : Error) : Plan α := .finish (.error e)

/-- Goes on unless a check has failed. -/
def check (outcome : Except Error Unit) (next : Plan α) : Plan α :=
  match outcome with
  | .ok () => next
  | .error e => fail e

def read (answer : View → Except Error α) : Plan α := .look fun v => .finish (answer v)

/-- Reads, and writes the row that is answered. -/
def write (change : α → Change) (answer : View → Except Error α) : Plan α :=
  .look fun v =>
    match answer v with
    | .ok row => .stage (change row) (.finish (.ok row))
    | .error e => fail e

/-- Numbers a new account and locks its row. -/
def createAccount (account : NewAccount) : Plan Account :=
  check account.validate <|
    .draw .account fun id =>
      .lock (.account id) <|
        write .account fun v =>
          .ok ⟨id, account.owner, account.balance, account.currency, v.now⟩

def changeBalance (id : AccountId) (balance : Account → Except Error Int64) : Plan Account :=
  .lock (.account id) <|
    write .account fun v => do
      let account ← v.requireAccount id
      pure { account with balance := ← balance account }

/-- A balance that is set must not be negative. -/
def setBalance (overwrite : BalanceOverwrite) : Plan Account :=
  check (if overwrite.balance < 0 then .error (.validation "balance must not be negative")
      else .ok ()) <|
    changeBalance overwrite.id fun _ => .ok overwrite.balance

/-- An account can be deleted when nothing refers to it. -/
def deleteAccount (id : AccountId) : Plan Unit :=
  .lock (.account id) <|
    write (fun _ => .deleteAccount id) fun v => do
      let _ ← v.requireAccount id
      if v.isReferenced id then
        throw (.conflict s!"account {id} is still referenced by entries or transfers")

/-- Draws a number, once a check on the rows that are seen has passed, and writes a row with it. -/
def insert (kind : RowKind) (guard : View → Except Error Unit)
    (change : α → Change) (row : Id kind → Instant → α) : Plan α :=
  .look fun v => check (guard v) <| .draw kind fun id => write change fun v => .ok (row id v.now)

/-- An entry must be on an account that is there. -/
def createEntry (entry : NewEntry) : Plan Entry :=
  insert .entry (fun v => (v.requireAccount entry.accountId).map fun _ => ()) .entry
    fun id now => ⟨id, entry.accountId, entry.amount, now⟩

/-- A transfer must move a positive amount between accounts that are there. -/
def createTransfer (transfer : NewTransfer) : Plan Transfer :=
  check (if transfer.amount ≤ 0 then .error (.validation "transfer amount must be positive")
      else .ok ()) <|
    insert .transfer
      (fun v => do
        let _ ← v.requireAccount transfer.fromAccountId
        let _ ← v.requireAccount transfer.toAccountId
        pure ())
      .transfer fun id now =>
        ⟨id, transfer.fromAccountId, transfer.toAccountId, transfer.amount, now⟩

/-- The name and the address of a new user are locked, in this order, and must be free. -/
def createUser (user : NewUser) : Plan User :=
  check user.validate <|
    .lock (.username user.username) <|
      .lock (.email user.email) <|
        write .user fun v => do
          if (v.user? user.username).isSome then
            throw (.conflict s!"username {user.username} already exists")
          if v.isEmailTaken user.email none then
            throw (.conflict s!"email {user.email} already exists")
          pure ⟨user.username, user.fullName, user.email, user.hashedPassword, v.now, none, v.now⟩

def changeUser (username : String) (change : User → User) : Plan User :=
  .lock (.username username) <| write .user fun v => (v.requireUser username).map change

/-- The new address is locked and found free before the name is locked. -/
def updateUser (changes : UserChanges) : Plan User :=
  let update := changeUser changes.username changes.applyTo
  match changes.email with
  | none => update
  | some email =>
    .lock (.email email) <|
      .look fun v =>
        if v.isEmailTaken email (some changes.username) then
          fail (.conflict s!"email {email} already exists")
        else update

/-- A session must be of a user that is there and under an unused name. -/
def createSession (session : NewSession) : Plan Session :=
  write .session fun v => do
    let _ ← v.requireUser session.username
    if (v.session? session.id).isSome then
      throw (.conflict s!"session {session.id} already exists")
    pure (session.issue v.now)

/-- Numbers a new message and locks its row. -/
def enqueue (message : NewMessage) : Plan Message :=
  .draw .outbox fun id =>
    .lock (.outbox id) <| write .message fun v => .ok (message.record id v.now)

/-- Claims messages one after the other until there are enough. A message whose lock somebody else
has is passed over. Between the scan and the lock another transaction may have finished with a
message, which is therefore read again. -/
def claimEach (limit : UInt32) (now : Instant) (claimed : List Message) :
    List OutboxId → Plan (List Message)
  | [] => .finish (.ok claimed)
  | id :: rest =>
    if limit.toNat ≤ claimed.length then .finish (.ok claimed)
    else
      .tryLock (.outbox id) fun
        | false => claimEach limit now claimed rest
        | true =>
          .look fun v =>
            match v.requireMessage id with
            | .ok row =>
              claimEach limit now (if row.isDue now then claimed ++ [row] else claimed) rest
            | .error e => fail e

/-- Scans for messages that are due and claims the first of them. -/
def claim (limit : UInt32) (now : Instant) : Plan (List Message) :=
  .look fun v => claimEach limit now [] ((v.messages (·.isDue now)).map (·.id))

def changeMessage (id : OutboxId) (change : Message → Message) : Plan Message :=
  .lock (.outbox id) <| write .message fun v => (v.requireMessage id).map change

end Plan

end Passbook.Store

namespace Passbook

open Store

def Query.plan : (q : Query) → Plan q.Row
  | .createAccount account => .createAccount account
  | .getAccount id => .read (·.requireAccount id)
  | .lockAccount id => .lock (.account id) (.read (·.requireAccount id))
  | .listAccounts p => .read fun v => .ok (page (v.accounts p.admits) p.limit p.offset)
  | .setBalance overwrite => .setBalance overwrite
  | .adjustBalance a => .changeBalance a.accountId (·.balanceAfter a.delta)
  | .deleteAccount id => .deleteAccount id
  | .createEntry entry => .createEntry entry
  | .getEntry id => .read (·.requireEntry id)
  | .listEntries p => .read fun v => .ok (page (v.entries p.admits) p.limit p.offset)
  | .createTransfer transfer => .createTransfer transfer
  | .getTransfer id => .read (·.requireTransfer id)
  | .listTransfers p => .read fun v => .ok (page (v.transfers p.admits) p.limit p.offset)
  | .createUser user => .createUser user
  | .getUser username => .read (·.requireUser username)
  | .updateUser changes => .updateUser changes
  | .changePassword change => .changeUser change.username change.applyTo
  | .createSession session => .createSession session
  | .getSession id => .read (·.requireSession id)
  | .revokeSession id => .write .session fun v => (v.requireSession id).map Session.revoked
  | .enqueue message => .enqueue message
  | .claim limit now => .claim limit now
  | .markDelivered id instant => .changeMessage id (·.delivered instant)
  | .markFailed id reason retryAt => .changeMessage id (·.failed reason retryAt)
  | .listMessages status limit =>
    .read fun v => .ok (page (v.messages fun row => status.all (row.status = ·)) limit 0)

end Passbook
