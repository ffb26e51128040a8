import Passbook.Store.Plan
import Passbook.Store.Pool

/-!
# The store

A store has the committed tables, the transactions that are open on it, the row locks that these
hold, and a pool of connections, one for each open transaction. A transaction sees the committed
rows and its own; its rows become committed all at once or never. Row locks are held until the
transaction ends, in whatever way it ends.

The functions below are the steps that a transaction makes. None of them waits: where a transaction
would have to wait for a connection or a lock, the step says so. Connections are handed over in the
order of arrival; who gets a lock that has become free is left to the caller.
-/
namespace Passbook

open Store

abbrev TxId := Nat

/-- Failures that are due at the next step of a kind. -/
structure Store.Faults where
  begin : Bool := false
  commit : Bool := false
  rollback : Bool := false
  deriving DecidableEq, Repr

/-- A ledger's rows and the transactions on them. -/
structure Store where
  committed : Tables := {}
  sequences : Sequences := {}
  faults : Faults := {}
  pool : Pool
  /-- Row locks with the transactions that hold them. -/
  locks : List (RowKey × TxId) := []
  transactions : List (TxId × Transaction) := []
  nextTx : TxId := 0

namespace Store

/-- An empty store with so many connections, but at least one. -/
def ofConnections (count : Nat) : Store := { pool := { idle := max count 1 } }

instance : Inhabited Store := ⟨ofConnections 1⟩

variable (s : Store)

/-- The connections that are idle. -/
def idle : Nat := s.pool.idle

/-- What an open transaction has written. -/
def transaction? (tx : TxId) : Option Transaction := s.transactions.lookup tx

def isOpen (tx : TxId) : Bool := (s.transaction? tx).isSome

def holder? (key : RowKey) : Option TxId := s.locks.lookup key

def locksOf (tx : TxId) : List RowKey := (s.locks.filter (·.2 = tx)).map Prod.fst

def view (tx : TxId) (now : Instant) : View where
  committed := s.committed
  own := (s.transaction? tx).getD default
  now

/-- Gives a free lock to a transaction. -/
def acquire (tx : TxId) (key : RowKey) : Store := { s with locks := (key, tx) :: s.locks }

/-- Makes a change to what a transaction has written. -/
def apply (tx : TxId) (change : Change) : Store :=
  { s with
    transactions := s.transactions.map fun (id, t) => (id, if id = tx then t.apply change else t) }

/-! ## Beginning -/

/-- How an attempt to begin a transaction ends. -/
inductive Opening
  | opened (tx : TxId)
  /-- Every connection is in use. -/
  | queued (ticket : Ticket)
  | refused (error : Error)
  deriving DecidableEq

/-- Opens a transaction. -/
def openNext : Store :=
  { s with
    transactions := (s.nextTx, {}) :: s.transactions
    nextTx := s.nextTx + 1 }

/-- Opens a transaction on an idle connection, or waits for one. -/
def connect : Store × Opening :=
  match s.pool.take? with
  | some pool => ({ s with pool }.openNext, .opened s.nextTx)
  | none => ({ s with pool := s.pool.wait }, .queued s.pool.nextTicket)

/-- Opens a transaction on the connection that a ticket was given. -/
def collect (ticket : Ticket) : Store := { s with pool := s.pool.collect ticket }.openNext

/-- An attempt to begin is given up. -/
def leave (ticket : Ticket) : Store := { s with pool := s.pool.leave ticket }

/-- Begins a transaction, unless the server cannot be reached. -/
def begin : Store × Opening :=
  if s.faults.begin then
    ({ s with faults.begin := false }, .refused (.infrastructure "begin" "connection refused"))
  else s.connect

def poolTimeout : Error :=
  .infrastructure "begin" "pool timed out while waiting for an open connection"

/-! ## Queries -/

/-- How far a plan gets by itself. -/
inductive Turn (α : Type)
  | finished (outcome : Except Error α)
  /-- The plan needs a lock that the transaction does not hold. -/
  | locking (key : RowKey) (rest : Plan α)
  /-- The plan is about to try for a lock. -/
  | trying (key : RowKey) (rest : Bool → Plan α)

/-- Carries out a plan up to where it needs a new lock or tries for one. -/
def advance {α : Type} (s : Store) (tx : TxId) (now : Instant) : Plan α → Store × Turn α
  | .finish outcome => (s, .finished outcome)
  | .look next => advance s tx now (next (s.view tx now))
  | .draw kind next =>
    let (id, sequences) := s.sequences.draw kind
    advance { s with sequences } tx now (next id)
  | .lock key rest =>
    if s.holder? key = some tx then advance s tx now rest else (s, .locking key rest)
  | .tryLock key rest => (s, .trying key rest)
  | .stage change rest => advance (s.apply tx change) tx now rest

def lockTimeout (key : RowKey) : Error :=
  .lockTimeout s!"canceling statement due to lock timeout on {key.render}"

/-! ## Ending -/

/-- Ends a transaction: its locks are free again, and its connection is given back. -/
def close (tx : TxId) : Store :=
  if s.isOpen tx then
    { s with
      pool := s.pool.giveBack
      locks := s.locks.filter (·.2 ≠ tx)
      transactions := s.transactions.filter (·.1 ≠ tx) }
  else s

/-- The error of a connection that breaks while a transaction ends. -/
def connectionReset (operation : String) : Error :=
  .infrastructure operation "connection reset by peer"

/-- Publishes what a transaction has written and ends it. When the commit fails, nothing is
published, and the transaction has ended all the same. -/
def commit (tx : TxId) : Store × Except Error Unit :=
  let closed := s.close tx
  if s.faults.commit then
    ({ closed with faults.commit := false }, .error (connectionReset "commit"))
  else
    match s.transaction? tx with
    | none => (closed, .ok ())
    | some t =>
      ({ closed with committed := s.committed.publish t.written t.deleted }, .ok ())

/-- Ends a transaction without publishing anything. -/
def rollback (tx : TxId) : Store × Except Error Unit :=
  let closed := s.close tx
  if s.faults.rollback then
    ({ closed with faults.rollback := false }, .error (connectionReset "rollback"))
  else (closed, .ok ())

end Store

end Passbook
