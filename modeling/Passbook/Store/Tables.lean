import Passbook.Outbox.Message
import Passbook.Session
import Passbook.Table
import Passbook.Transfer

/-!
# The tables of a ledger

Six tables hold everything that is stored. The same structure serves for what has been committed
and for what one transaction has written so far.
-/
namespace Passbook.Store

open Outbox (Message)

/-- The rows of a ledger. -/
structure Tables where
  accounts : Table AccountId Account := ∅
  entries : Table EntryId Entry := ∅
  transfers : Table TransferId Transfer := ∅
  users : Table String User := ∅
  sessions : Table SessionId Session := ∅
  messages : Table OutboxId Message := ∅
  deriving DecidableEq

namespace Tables

def empty : Tables := {}

instance : Inhabited Tables := ⟨empty⟩

def totalBalance (t : Tables) : Int :=
  t.accounts.values.foldl (fun sum row => sum + row.balance.toInt) 0

def entrySum (t : Tables) (id : AccountId) : Int :=
  (t.entries.values.filter (·.accountId = id)).foldl (fun sum row => sum + row.amount.toInt) 0

/-- The rows after a commit: those that were written replace or join the committed ones, and the
deleted accounts are gone. -/
def publish (committed written : Tables) (deleted : List AccountId) : Tables where
  accounts := deleted.foldl Table.erase (committed.accounts.overlay written.accounts)
  entries := committed.entries.overlay written.entries
  transfers := committed.transfers.overlay written.transfers
  users := committed.users.overlay written.users
  sessions := committed.sessions.overlay written.sessions
  messages := committed.messages.overlay written.messages

end Tables

/-- The numbers that rows are given, one sequence for each kind. -/
structure Sequences where
  account : Int64 := 0
  entry : Int64 := 0
  transfer : Int64 := 0
  message : Int64 := 0
  deriving DecidableEq, Repr

namespace Sequences

/-- The number that was given last. -/
def last (s : Sequences) : RowKind → Int64
  | .account => s.account
  | .entry => s.entry
  | .transfer => s.transfer
  | .outbox => s.message

/-- The sequences once the next number of a kind has been given. Numbers are never taken back. -/
def advance (s : Sequences) : RowKind → Sequences
  | .account => { s with account := s.account + 1 }
  | .entry => { s with entry := s.entry + 1 }
  | .transfer => { s with transfer := s.transfer + 1 }
  | .outbox => { s with message := s.message + 1 }

/-- The next number of a kind, and the sequences without it. -/
def draw (s : Sequences) (kind : RowKind) : Id kind × Sequences :=
  (⟨(s.advance kind).last kind⟩, s.advance kind)

end Sequences

end Passbook.Store
