import Passbook.Sql.Failure
import Passbook.Sql.Statement

/-!
# Rows from a server

A server answers with rows of named columns, and each kind of row is read from its columns in a
fixed order: the first column that has no value but must have one, or the first value that the
ledger does not know, is the failure.
-/
namespace Passbook.Sql

open Outbox (Message Status)

/-- The value of a column. -/
inductive Cell
  | null
  | text (value : String)
  | integer (value : Int64)
  | flag (value : Bool)
  | instant (value : Instant)
  | uuid (value : Uuid)
  | json (value : Json)
  deriving DecidableEq

/-- One row: columns with their values. A column that is not named has no value. -/
abbrev Columns := List (String × Cell)

/-- Types that a column can be read as. -/
class OfCell (α : Type) where
  ofCell? : Cell → Option α

instance : OfCell String := ⟨fun | .text s => some s | _ => none⟩
instance : OfCell Int64 := ⟨fun | .integer n => some n | _ => none⟩
instance : OfCell Bool := ⟨fun | .flag b => some b | _ => none⟩
instance : OfCell Instant := ⟨fun | .instant t => some (stored t) | _ => none⟩
instance : OfCell Json := ⟨fun | .json j => some (storedJson j) | _ => none⟩
instance : OfCell SessionId := ⟨fun | .uuid u => some ⟨u⟩ | _ => none⟩
instance {kind : RowKind} : OfCell (Id kind) := ⟨fun | .integer n => some ⟨n⟩ | _ => none⟩

namespace Columns

variable {α : Type} [OfCell α]

/-- The failure of a column whose value is of another type. -/
def mismatch (name : String) : Failure := .decode s!"column {name} has a value of another type"

/-- A column that must have a value. -/
def required (row : Columns) (name : String) : Except Failure α :=
  match (row.lookup name).getD .null with
  | .null => .error (.unexpectedNull name)
  | cell => (OfCell.ofCell? cell).elim (.error (mismatch name)) .ok

/-- A column that may be without a value. -/
def optional (row : Columns) (name : String) : Except Failure (Option α) :=
  match (row.lookup name).getD .null with
  | .null => .ok none
  | cell => (OfCell.ofCell? cell).elim (.error (mismatch name)) (.ok ∘ some)

end Columns

/-- A value that the ledger does not know is a failure of reading. -/
def known {α : Type} (value : Except Error α) : Except Failure α :=
  value.mapError fun e => .decode e.message

/-- A count of attempts; a negative one is none. -/
def attemptsOf (n : Int64) : UInt32 := UInt32.ofNat n.toInt.toNat

/-- An account from its columns; the currency's code must be well formed. -/
def readAccount (row : Columns) : Except Failure Account := do
  let code : String ← row.required "currency"
  return {
    id := ← row.required "id"
    owner := ← row.required "owner"
    balance := ← row.required "balance"
    currency := ← known (Currency.ofCode code)
    createdAt := ← row.required "created_at" }

def readEntry (row : Columns) : Except Failure Entry := do
  return {
    id := ← row.required "id"
    accountId := ← row.required "account_id"
    amount := ← row.required "amount"
    createdAt := ← row.required "created_at" }

def readTransfer (row : Columns) : Except Failure Transfer := do
  return {
    id := ← row.required "id"
    fromAccountId := ← row.required "from_account_id"
    toAccountId := ← row.required "to_account_id"
    amount := ← row.required "amount"
    createdAt := ← row.required "created_at" }

/-- A user from its columns; only the confirmation of the address may be missing. -/
def readUser (row : Columns) : Except Failure User := do
  return {
    username := ← row.required "username"
    fullName := ← row.required "full_name"
    email := ← row.required "email"
    hashedPassword := ← row.required "hashed_password"
    passwordChangedAt := ← row.required "password_changed_at"
    emailVerifiedAt := ← row.optional "email_verified_at"
    createdAt := ← row.required "created_at" }

def readSession (row : Columns) : Except Failure Session := do
  return {
    id := ← row.required "id"
    username := ← row.required "username"
    refreshToken := ← row.required "refresh_token"
    userAgent := ← row.required "user_agent"
    clientIp := ← row.required "client_ip"
    isBlocked := ← row.required "is_blocked"
    expiresAt := ← row.required "expires_at"
    createdAt := ← row.required "created_at" }

/-- A message from its columns; the status must be a known one. -/
def readMessage (row : Columns) : Except Failure Message := do
  let status : String ← row.required "status"
  let attempts : Int64 ← row.required "attempts"
  return {
    id := ← row.required "id"
    topic := ← row.required "topic"
    payload := ← row.required "payload"
    status := ← known (Status.parse status)
    attempts := attemptsOf attempts
    lastError := ← row.optional "last_error"
    availableAt := ← row.required "available_at"
    deliveredAt := ← row.optional "delivered_at"
    createdAt := ← row.required "created_at" }

/-- What a server answers to a statement. -/
inductive Reply
  | rows (rows : List Columns)
  | affected (count : Nat)
  | failed (e : ServerError)

namespace Reply

/-- The rows that were answered. -/
def columns : Reply → Except Failure (List Columns)
  | .rows rs => .ok rs
  | .affected _ => .ok []
  | .failed e => .error (.server e)

def count : Reply → Except Failure Nat
  | .rows rs => .ok rs.length
  | .affected n => .ok n
  | .failed e => .error (.server e)

variable {α : Type}

/-- The first row, if there is one. -/
def first? (read : Columns → Except Failure α) (reply : Reply) : Except Failure (Option α) := do
  match ← reply.columns with
  | [] => return none
  | row :: _ => return some (← read row)

/-- The first row, which must be there. -/
def first (read : Columns → Except Failure α) (reply : Reply) : Except Failure α := do
  match ← reply.first? read with
  | some a => return a
  | none => throw .rowNotFound

/-- All rows, or the failure of the first that cannot be read. -/
def all (read : Columns → Except Failure α) (reply : Reply) : Except Failure (List α) := do
  (← reply.columns).mapM read

end Reply

end Passbook.Sql

namespace Passbook.Query

open Sql

variable {α : Type}

/-- The constraint that keeps balances from being negative. -/
def balanceConstraint : String := "accounts_balance_nonnegative"

/-- The error of a failed query. A change of a balance that would make it negative is its own
error. -/
def errorOf (q : Query) (failure : Failure) : Error :=
  match q with
  | .adjustBalance a =>
    if failure.violates balanceConstraint then .insufficientFunds a.accountId.value a.delta
    else failure.toError q.operation
  | _ => failure.toError q.operation

/-- A row that may be missing, which is then said of the row that was asked for. -/
def requested {κ : Type} [ToString κ] (entity : String) (key : κ)
    (row : Except Error (Option α)) : Except Error α := do
  match ← row with
  | some a => return a
  | none => throw (.notFound entity (toString key))

/-- The answer to a query that a reply is. -/
def ofReply (q : Query) (reply : Reply) : Except Error q.Row :=
  let one {α : Type} (read : Columns → Except Failure α) : Except Error α :=
    (reply.first read).mapError q.errorOf
  let some {α : Type} (read : Columns → Except Failure α) : Except Error (Option α) :=
    (reply.first? read).mapError q.errorOf
  let all {α : Type} (read : Columns → Except Failure α) : Except Error (List α) :=
    (reply.all read).mapError q.errorOf
  match q with
  | .createAccount _ => one readAccount
  | .getAccount id | .lockAccount id => requested "account" id (some readAccount)
  | .listAccounts _ => all readAccount
  | .setBalance o => requested "account" o.id (some readAccount)
  | .adjustBalance a => requested "account" a.accountId (some readAccount)
  | .deleteAccount id =>
    match reply.count with
    | .ok 0 => .error (.notFound "account" id.render)
    | .ok _ => .ok ()
    | .error failure => .error (q.errorOf failure)
  | .createEntry _ => one readEntry
  | .getEntry id => requested "entry" id (some readEntry)
  | .listEntries _ => all readEntry
  | .createTransfer _ => one readTransfer
  | .getTransfer id => requested "transfer" id (some readTransfer)
  | .listTransfers _ => all readTransfer
  | .createUser _ => one readUser
  | .getUser username => requested "user" username (some readUser)
  | .updateUser c => requested "user" c.username (some readUser)
  | .changePassword c => requested "user" c.username (some readUser)
  | .createSession _ => one readSession
  | .getSession id | .revokeSession id => requested "session" id (some readSession)
  | .enqueue _ => one readMessage
  | .claim .. | .listMessages .. => all readMessage
  | .markDelivered id _ | .markFailed id .. => requested "outbox message" id (some readMessage)

end Passbook.Query
