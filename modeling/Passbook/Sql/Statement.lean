import Passbook.Json.Parser
import Passbook.Json.Printer
import Passbook.Store.Query

/-!
# Statements

The statement that each query is for a database server, with its parameters. Row locks, the rule
that no balance is negative, and references between tables are the server's business; only what a
server would not check the same way is checked before a statement is sent.
-/
namespace Passbook.Sql

/-- The second that a server counts instants from, the start of the year 2000. -/
def originSecond : Int := 946684800

example : originSecond = Time.Date.dayNumber ⟨2000, 1, 1⟩ * 86400 := by decide

/-- An instant as a server keeps it: whole microseconds before or after the start of the year 2000.
What is left of a microsecond is cut off, and a leap second becomes the second after it. -/
def stored (t : Instant) : Instant :=
  let origin := originSecond * Instant.nanosPerSecond
  (Instant.ofNanos? (origin + Int.tdiv (t.sinceEpoch - origin) 1000 * 1000)).getD t

/-- A document as a server keeps it: what is read from its text. A number in it can come out as a
neighbour of itself. -/
def storedJson (j : Json) : Json := (Json.parse? j.render).getD j

inductive Parameter
  | null
  | text (value : String)
  | integer (value : Int)
  | instant (value : Instant)
  | uuid (value : Uuid)
  | json (value : Json)
  deriving DecidableEq

namespace Parameter

/-- A value that may be absent. -/
def optional {α : Type} (wrap : α → Parameter) : Option α → Parameter
  | some a => wrap a
  | none => null

def ofId {kind : RowKind} (id : Id kind) : Parameter := integer id.value.toInt

/-- An amount or a balance. -/
def ofAmount (n : Int64) : Parameter := integer n.toInt

/-- An instant, as a server keeps it. -/
def ofInstant (t : Instant) : Parameter := instant (stored t)

/-- A document, as a server keeps it. -/
def ofJson (j : Json) : Parameter := json (storedJson j)

/-- A limit or an offset. -/
def ofCount (n : UInt32) : Parameter := integer n.toNat

end Parameter

/-- A statement as it is sent. -/
structure Statement where
  text : String
  parameters : List Parameter := []
  deriving DecidableEq

def accountColumns : String := "id, owner, balance, currency, created_at"

def entryColumns : String := "id, account_id, amount, created_at"

def transferColumns : String := "id, from_account_id, to_account_id, amount, created_at"

def userColumns : String :=
  "username, full_name, email, hashed_password, password_changed_at, email_verified_at, created_at"

def sessionColumns : String :=
  "id, username, refresh_token, user_agent, client_ip, is_blocked, expires_at, created_at"

def outboxColumns : String :=
  "id, topic, payload, status, attempts, last_error, available_at, delivered_at, created_at"

/-- The statements that begin and end transactions. -/
inductive Control
  | begin
  | commit
  | rollback
  deriving DecidableEq, Repr

def Control.text : Control → String
  | .begin => "BEGIN"
  | .commit => "COMMIT"
  | .rollback => "ROLLBACK"

end Passbook.Sql

namespace Passbook.Query

open Sql Sql.Parameter

/-- The name of the operation in error messages. -/
def operation : Query → String
  | .createAccount _ => "create_account"
  | .getAccount _ => "get_account"
  | .lockAccount _ => "get_account_for_update"
  | .listAccounts _ => "list_accounts"
  | .setBalance _ => "update_account_balance"
  | .adjustBalance _ => "add_account_balance"
  | .deleteAccount _ => "delete_account"
  | .createEntry _ => "create_entry"
  | .getEntry _ => "get_entry"
  | .listEntries _ => "list_entries"
  | .createTransfer _ => "create_transfer"
  | .getTransfer _ => "get_transfer"
  | .listTransfers _ => "list_transfers"
  | .createUser _ => "create_user"
  | .getUser _ => "get_user"
  | .updateUser _ => "update_user"
  | .changePassword _ => "change_password"
  | .createSession _ => "create_session"
  | .getSession _ => "get_session"
  | .revokeSession _ => "revoke_session"
  | .enqueue _ => "enqueue_outbox"
  | .claim .. => "claim_outbox"
  | .markDelivered .. => "mark_outbox_delivered"
  | .markFailed .. => "mark_outbox_failed"
  | .listMessages .. => "list_outbox"

/-- What is checked before the statement is sent. -/
def precheck : Query → Except Error Unit
  | .createAccount account => account.validate
  | .createTransfer transfer =>
    if transfer.amount ≤ 0 then .error (.validation "transfer amount must be positive") else .ok ()
  | .createUser user => user.validate
  | _ => .ok ()

def statement : Query → Statement
  | .createAccount a =>
    ⟨"INSERT INTO accounts (owner, balance, currency) VALUES ($1, $2, $3) RETURNING "
      ++ accountColumns, [.text a.owner, .ofAmount a.balance, .text a.currency.code]⟩
  | .getAccount id =>
    ⟨s!"SELECT {accountColumns} FROM accounts WHERE id = $1 LIMIT 1", [.ofId id]⟩
  | .lockAccount id =>
    ⟨s!"SELECT {accountColumns} FROM accounts WHERE id = $1 LIMIT 1 FOR NO KEY UPDATE", [.ofId id]⟩
  | .listAccounts p =>
    ⟨s!"SELECT {accountColumns} FROM accounts WHERE ($1::varchar IS NULL OR owner = $1) " ++
        "ORDER BY id LIMIT $2 OFFSET $3",
      [optional .text p.owner, .ofCount p.limit, .ofCount p.offset]⟩
  | .setBalance o =>
    ⟨s!"UPDATE accounts SET balance = $2 WHERE id = $1 RETURNING {accountColumns}",
      [.ofId o.id, .ofAmount o.balance]⟩
  | .adjustBalance a =>
    ⟨s!"UPDATE accounts SET balance = balance + $2 WHERE id = $1 RETURNING {accountColumns}",
      [.ofId a.accountId, .ofAmount a.delta]⟩
  | .deleteAccount id => ⟨"DELETE FROM accounts WHERE id = $1", [.ofId id]⟩
  | .createEntry e =>
    ⟨s!"INSERT INTO entries (account_id, amount) VALUES ($1, $2) RETURNING {entryColumns}",
      [.ofId e.accountId, .ofAmount e.amount]⟩
  | .getEntry id => ⟨s!"SELECT {entryColumns} FROM entries WHERE id = $1 LIMIT 1", [.ofId id]⟩
  | .listEntries p =>
    ⟨s!"SELECT {entryColumns} FROM entries WHERE account_id = $1 ORDER BY id LIMIT $2 OFFSET $3",
      [.ofId p.accountId, .ofCount p.limit, .ofCount p.offset]⟩
  | .createTransfer t =>
    ⟨"INSERT INTO transfers (from_account_id, to_account_id, amount) VALUES ($1, $2, $3) " ++
        s!"RETURNING {transferColumns}",
      [.ofId t.fromAccountId, .ofId t.toAccountId, .ofAmount t.amount]⟩
  | .getTransfer id =>
    ⟨s!"SELECT {transferColumns} FROM transfers WHERE id = $1 LIMIT 1", [.ofId id]⟩
  | .listTransfers p =>
    ⟨s!"SELECT {transferColumns} FROM transfers " ++
        "WHERE (from_account_id = $1 AND to_account_id = $2) " ++
        "OR (from_account_id = $2 AND to_account_id = $1) ORDER BY id LIMIT $3 OFFSET $4",
      [.ofId p.fromAccountId, .ofId p.toAccountId, .ofCount p.limit, .ofCount p.offset]⟩
  | .createUser u =>
    ⟨"INSERT INTO users (username, full_name, email, hashed_password) " ++
        s!"VALUES ($1, $2, $3, $4) RETURNING {userColumns}",
      [.text u.username, .text u.fullName, .text u.email, .text u.hashedPassword]⟩
  | .getUser username =>
    ⟨s!"SELECT {userColumns} FROM users WHERE username = $1 LIMIT 1", [.text username]⟩
  | .updateUser c =>
    ⟨"UPDATE users SET full_name = COALESCE($2, full_name), email = COALESCE($3, email), " ++
        "email_verified_at = COALESCE($4, email_verified_at) " ++
        s!"WHERE username = $1 RETURNING {userColumns}",
      [.text c.username, optional .text c.fullName, optional .text c.email,
        optional .ofInstant c.emailVerifiedAt]⟩
  | .changePassword c =>
    ⟨"UPDATE users SET hashed_password = $2, password_changed_at = $3 " ++
        s!"WHERE username = $1 RETURNING {userColumns}",
      [.text c.username, .text c.hashedPassword, .ofInstant c.passwordChangedAt]⟩
  | .createSession n =>
    ⟨"INSERT INTO sessions (id, username, refresh_token, user_agent, client_ip, expires_at) " ++
        s!"VALUES ($1, $2, $3, $4, $5, $6) RETURNING {sessionColumns}",
      [.uuid n.id.uuid, .text n.username, .text n.refreshToken, .text n.userAgent,
        .text n.clientIp, .ofInstant n.expiresAt]⟩
  | .getSession id =>
    ⟨s!"SELECT {sessionColumns} FROM sessions WHERE id = $1 LIMIT 1", [.uuid id.uuid]⟩
  | .revokeSession id =>
    ⟨s!"UPDATE sessions SET is_blocked = true WHERE id = $1 RETURNING {sessionColumns}",
      [.uuid id.uuid]⟩
  | .enqueue m =>
    ⟨"INSERT INTO outbox (topic, payload, available_at) " ++
        s!"VALUES ($1, $2, COALESCE($3, now())) RETURNING {outboxColumns}",
      [.text m.topic, .ofJson m.payload, optional .ofInstant m.availableAt]⟩
  | .claim limit now =>
    ⟨s!"SELECT {outboxColumns} FROM outbox WHERE status = 'pending' AND available_at <= $1 " ++
        "ORDER BY id LIMIT $2 FOR UPDATE SKIP LOCKED", [.ofInstant now, .ofCount limit]⟩
  | .markDelivered id time =>
    ⟨"UPDATE outbox SET status = 'delivered', delivered_at = $2, attempts = attempts + 1 " ++
        s!"WHERE id = $1 RETURNING {outboxColumns}", [.ofId id, .ofInstant time]⟩
  | .markFailed id reason retryAt =>
    ⟨"UPDATE outbox SET attempts = attempts + 1, last_error = $2, " ++
        "status = CASE WHEN $3::timestamptz IS NULL THEN 'dead_lettered' ELSE 'pending' END, " ++
        s!"available_at = COALESCE($3, available_at) WHERE id = $1 RETURNING {outboxColumns}",
      [.ofId id, .text reason, optional .ofInstant retryAt]⟩
  | .listMessages status limit =>
    ⟨s!"SELECT {outboxColumns} FROM outbox WHERE ($1::varchar IS NULL OR status = $1) " ++
        "ORDER BY id LIMIT $2", [optional .text (status.map Outbox.Status.name), .ofCount limit]⟩

end Passbook.Query
