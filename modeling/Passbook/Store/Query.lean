import Passbook.Store.Tables

/-!
# Queries

The operations on stored rows, the same for every store. A query is a value, and its type of row
says what a store answers when the query succeeds.
-/
namespace Passbook

open Outbox (Message NewMessage Status)

/-- One operation on the rows of a ledger. -/
inductive Query
  | createAccount (account : NewAccount)
  | getAccount (id : AccountId)
  /-- Reads an account and keeps its row locked until the transaction ends. -/
  | lockAccount (id : AccountId)
  | listAccounts (page : AccountPage)
  | setBalance (overwrite : BalanceOverwrite)
  | adjustBalance (adjustment : BalanceAdjustment)
  | deleteAccount (id : AccountId)
  | createEntry (entry : NewEntry)
  | getEntry (id : EntryId)
  | listEntries (page : EntryPage)
  | createTransfer (transfer : NewTransfer)
  | getTransfer (id : TransferId)
  | listTransfers (page : TransferPage)
  | createUser (user : NewUser)
  | getUser (username : String)
  | updateUser (changes : UserChanges)
  | changePassword (change : PasswordChange)
  | createSession (session : NewSession)
  | getSession (id : SessionId)
  | revokeSession (id : SessionId)
  | enqueue (message : NewMessage)
  /-- Locks the first due messages that no other transaction has locked. -/
  | claim (limit : UInt32) (now : Instant)
  | markDelivered (id : OutboxId) (instant : Instant)
  /-- Records a failed delivery; without a retry the message is given up. -/
  | markFailed (id : OutboxId) (reason : String) (retryAt : Option Instant)
  | listMessages (status : Option Status) (limit : UInt32)
  deriving DecidableEq

namespace Query

/-- What the query answers when it succeeds. -/
abbrev Row : Query → Type
  | createAccount _ | getAccount _ | lockAccount _ | setBalance _ | adjustBalance _ => Account
  | listAccounts _ => List Account
  | deleteAccount _ => Unit
  | createEntry _ | getEntry _ => Entry
  | listEntries _ => List Entry
  | createTransfer _ | getTransfer _ => Transfer
  | listTransfers _ => List Transfer
  | createUser _ | getUser _ | updateUser _ | changePassword _ => User
  | createSession _ | getSession _ | revokeSession _ => Session
  | enqueue _ | markDelivered .. | markFailed .. => Message
  | claim .. | listMessages .. => List Message

/-- The query that records when a user has confirmed the address. -/
def markEmailVerified (username : String) (instant : Instant) : Query :=
  .updateUser { username, emailVerifiedAt := some instant }

end Query

/-- The answer to a query of any kind. -/
inductive Answer
  | nothing
  | account (row : Account)
  | accounts (rows : List Account)
  | entry (row : Entry)
  | entries (rows : List Entry)
  | transfer (row : Transfer)
  | transfers (rows : List Transfer)
  | user (row : User)
  | session (row : Session)
  | message (row : Message)
  | messages (rows : List Message)
  deriving DecidableEq

def Query.answer : (q : Query) → q.Row → Answer
  | createAccount _, row | getAccount _, row | lockAccount _, row | setBalance _, row
  | adjustBalance _, row => .account row
  | listAccounts _, rows => .accounts rows
  | deleteAccount _, _ => .nothing
  | createEntry _, row | getEntry _, row => .entry row
  | listEntries _, rows => .entries rows
  | createTransfer _, row | getTransfer _, row => .transfer row
  | listTransfers _, rows => .transfers rows
  | createUser _, row | getUser _, row | updateUser _, row | changePassword _, row => .user row
  | createSession _, row | getSession _, row | revokeSession _, row => .session row
  | enqueue _, row | markDelivered .., row | markFailed .., row => .message row
  | claim .., rows | listMessages .., rows => .messages rows

end Passbook
