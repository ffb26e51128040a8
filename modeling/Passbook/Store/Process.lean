import Passbook.Store.Basic
import Passbook.Work.Basic

/-!
# Processes

A process is a program that runs against a store. It makes one step at a time, so that the steps of
several processes can be taken in any order. A process waits in three places: for a connection, for
a row lock, and for its surroundings when it sleeps or has a message delivered. How a wait ends is a
step of its own: the process takes up the connection, gets the lock, gives up, or goes on. A process
that tries for a row lock does not wait, but others may have come first.
-/
namespace Passbook.Store

open Logging (Event)

inductive Phase (α : Type)
  | ready (program : Program α)
  | connecting (ticket : Ticket) (next : Except Error Unit → Program α)
  /-- In the middle of a query. -/
  | querying {q : Query} (plan : Plan q.Row) (next : Except Error q.Row → Program α)
  /-- In the middle of a query, which needs a lock first. -/
  | locking {q : Query} (key : RowKey) (rest : Plan q.Row) (next : Except Error q.Row → Program α)
  /-- In the middle of a query, about to try for a lock. -/
  | trying {q : Query} (key : RowKey) (rest : Bool → Plan q.Row)
    (next : Except Error q.Row → Program α)
  | sleeping (millis : Nat) (next : Unit → Program α)
  | delivering (message : Outbox.Message) (next : Except String Unit → Program α)
  | finished (result : α)

/-- A program on a store and the transaction that it has open. -/
structure Process (α : Type) where
  tx : Option TxId := none
  phase : Phase α

/-- What a step lets others know. -/
inductive Sign
  | logged (event : Event)
  | told (note : Note)
  /-- A row lock was taken that had been free. -/
  | locked (key : RowKey)

/-- A store and a process after a step. -/
structure Progress (α : Type) where
  store : Store
  process : Process α
  signs : List Sign := []

namespace Process

variable {α : Type}

/-- A process that is about to run a program in an open transaction or in none. -/
def start (tx : Option TxId) (program : Program α) : Process α := { tx, phase := .ready program }

/-- The error of a request for which a transaction would have to be open. -/
def noTransaction : Error := .infrastructure "transaction" "no transaction is open"

/-- The first step towards the reply to a request. -/
def answer (s : Store) (tx : Option TxId) (now : Instant) :
    (r : Request) → (r.Reply → Program α) → Progress α
  | .query q, next => ⟨s, ⟨tx, .querying q.plan next⟩, []⟩
  | .clock, next => ⟨s, ⟨tx, .ready (next now)⟩, []⟩
  | .deliver message, next => ⟨s, ⟨tx, .delivering message next⟩, []⟩
  | .sleep millis, next => ⟨s, ⟨tx, .sleeping millis next⟩, []⟩
  | .record event, next => ⟨s, ⟨tx, .ready (next ())⟩, [.logged event]⟩
  | .tell note, next => ⟨s, ⟨tx, .ready (next ())⟩, [.told note]⟩

/-- Ends the open transaction in one of two ways and goes on with the outcome. -/
def finish (s : Store) (tx : Option TxId) (ending : TxId → Store × Except Error Unit)
    (next : Except Error Unit → Program α) : Progress α :=
  match tx with
  | none => ⟨s, ⟨none, .ready (next (.error noTransaction))⟩, []⟩
  | some tx =>
    let (s, outcome) := ending tx
    ⟨s, ⟨none, .ready (next outcome)⟩, []⟩

/-- Goes on with a query, up to its next lock and with the lock if it is free, or to where it tries
for one. -/
def resume {q : Query} (s : Store) (tx : TxId) (now : Instant) (plan : Plan q.Row)
    (next : Except Error q.Row → Program α) : Progress α :=
  match s.advance tx now plan with
  | (s, .finished outcome) => ⟨s, ⟨some tx, .ready (next outcome)⟩, []⟩
  | (s, .locking key rest) =>
    match s.holder? key with
    | none => ⟨s.acquire tx key, ⟨some tx, .querying rest next⟩, [.locked key]⟩
    | some _ => ⟨s, ⟨some tx, .locking key rest next⟩, []⟩
  | (s, .trying key rest) => ⟨s, ⟨some tx, .trying key rest next⟩, []⟩

/-- Takes a lock that nobody has, and goes on either way. -/
def tryLock {q : Query} (s : Store) (tx : TxId) (key : RowKey) (rest : Bool → Plan q.Row)
    (next : Except Error q.Row → Program α) : Progress α :=
  match s.holder? key with
  | none => ⟨s.acquire tx key, ⟨some tx, .querying (rest true) next⟩, []⟩
  | some holder => ⟨s, ⟨some tx, .querying (rest (holder = tx)) next⟩, []⟩

/-- One step of a process that need not wait; the others stay where they are. -/
def step (s : Store) (now : Instant) (p : Process α) : Progress α :=
  match p.phase with
  | .ready (.done a) => ⟨s, { p with phase := .finished a }, []⟩
  | .ready (.ask .begin next) =>
    match s.begin with
    | (s, .opened tx) => ⟨s, ⟨some tx, .ready (next (.ok ()))⟩, []⟩
    | (s, .queued ticket) => ⟨s, { p with phase := .connecting ticket next }, []⟩
    | (s, .refused e) => ⟨s, { p with phase := .ready (next (.error e)) }, []⟩
  | .ready (.ask .commit next) => finish s p.tx s.commit next
  | .ready (.ask .rollback next) => finish s p.tx s.rollback next
  | .ready (.ask (.inside r) next) => answer s p.tx now r next
  | .querying plan next =>
    match p.tx with
    | some tx => resume s tx now plan next
    | none => ⟨s, { p with phase := .ready (next (.error noTransaction)) }, []⟩
  | .trying key rest next =>
    match p.tx with
    | some tx => tryLock s tx key rest next
    | none => ⟨s, { p with phase := .ready (next (.error noTransaction)) }, []⟩
  | .connecting .. | .locking .. | .sleeping .. | .delivering .. | .finished _ => ⟨s, p, []⟩

/-- A process takes up the connection that it has waited for, if it was given one. -/
def enter (s : Store) (p : Process α) : Progress α :=
  match p.phase with
  | .connecting ticket next =>
    if ticket ∈ s.pool.handed then
      ⟨s.collect ticket, ⟨some s.nextTx, .ready (next (.ok ()))⟩, []⟩
    else ⟨s, p, []⟩
  | _ => ⟨s, p, []⟩

/-- A process that waits for a row lock gets it, if it is free. -/
def grant (s : Store) (p : Process α) : Progress α :=
  match p.phase, p.tx with
  | .locking key rest next, some tx =>
    match s.holder? key with
    | none => ⟨s.acquire tx key, { p with phase := .querying rest next }, [.locked key]⟩
    | some _ => ⟨s, p, []⟩
  | _, _ => ⟨s, p, []⟩

def wake (p : Process α) : Process α :=
  match p.phase with
  | .sleeping _ next => { p with phase := .ready (next ()) }
  | _ => p

/-- A process that has a message delivered learns how that went. -/
def hear (outcome : Except String Unit) (p : Process α) : Process α :=
  match p.phase with
  | .delivering _ next => { p with phase := .ready (next outcome) }
  | _ => p

/-- A process that waits for a connection or a row lock gives up. If it was given the connection
meanwhile, it takes it. -/
def giveUp (s : Store) (p : Process α) : Progress α :=
  match p.phase with
  | .connecting ticket next =>
    if ticket ∈ s.pool.handed then enter s p
    else ⟨s.leave ticket, { p with phase := .ready (next (.error poolTimeout)) }, []⟩
  | .locking key _ next => ⟨s, { p with phase := .ready (next (.error (lockTimeout key))) }, []⟩
  | _ => ⟨s, p, []⟩

/-- The store once a process no longer waits for a connection. -/
def withdraw (s : Store) (p : Process α) : Store :=
  match p.phase with
  | .connecting ticket _ => s.leave ticket
  | _ => s

/-- A process is dropped where it stands; an open transaction is gone with its writes. -/
def drop (s : Store) (p : Process α) : Store × List Sign :=
  match p.tx with
  | some tx => ((withdraw s p).close tx, [.logged (.transactionDropped (s.locksOf tx).length)])
  | none => (withdraw s p, [])

end Process

end Passbook.Store
