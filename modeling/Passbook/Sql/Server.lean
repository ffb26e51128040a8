import Passbook.Settings
import Passbook.Sql.Row

/-!
# A scripted server

A server that executes nothing: it writes down what it is sent and answers from a list of replies.
There is one connection to it. While a transaction is open on the connection nobody else gets one.
A transaction that did not end properly is rolled back, not at once but before the connection is
used again.
-/
namespace Passbook.Sql

/-- A server and the one connection to it. -/
structure Server where
  /-- No more connections are given out. -/
  closed : Bool := false
  /-- A transaction is open on the connection. -/
  busy : Bool := false
  /-- The last transaction did not end properly and has not been rolled back since. -/
  unended : Bool := false
  /-- Answers to the coming statements; without one, no rows are found or changed. -/
  replies : List Reply := []
  /-- Failures of the next control statement of a kind. -/
  failures : List (Control × ServerError) := []
  /-- What was sent, the latest first. -/
  sent : List Statement := []

namespace Server

def control (s : Server) (c : Control) : Server × Except Failure Unit :=
  let s := { s with sent := ⟨c.text, []⟩ :: s.sent }
  match s.failures.lookup c with
  | none => (s, .ok ())
  | some e => ({ s with failures := s.failures.filter (·.1 ≠ c) }, .error (.server e))

/-- Why no connection can be had. -/
def unavailable? (s : Server) : Option Failure :=
  if s.closed then some .poolClosed else if s.busy then some .poolTimedOut else none

/-- Leaves a transaction without an end. -/
def drop (s : Server) : Server := { s with busy := false, unended := true }

/-- Rolls back what was left without an end; whether that fails is not looked at. -/
def settle (s : Server) : Server :=
  if s.unended then { (s.control .rollback).1 with unended := false } else s

def begin (s : Server) : Server × Except Error Unit :=
  match s.unavailable? with
  | some failure => (s, .error (failure.toError "begin"))
  | none =>
    match s.settle.control .begin with
    | (s, .ok ()) => ({ s with busy := true }, .ok ())
    | (s, .error failure) => (s, .error (failure.toError "begin"))

/-- Ends a transaction. When that fails, it is left without an end. -/
def finish (s : Server) (c : Control) (operation : String) : Server × Except Error Unit :=
  match s.control c with
  | (s, .ok ()) => ({ s with busy := false }, .ok ())
  | (s, .error failure) => (s.drop, .error (failure.toError operation))

/-- Ends a transaction and keeps what it has done. -/
def commit (s : Server) : Server × Except Error Unit := s.finish .commit "commit"

/-- Ends a transaction and takes back what it has done. -/
def rollback (s : Server) : Server × Except Error Unit :=
  s.finish .rollback "rollback"

/-- Sends a statement and takes the next reply. -/
def send (s : Server) (statement : Statement) : Server × Reply :=
  ({ s with sent := statement :: s.sent, replies := s.replies.tail },
    s.replies.head?.getD (.affected 0))

def query (s : Server) (q : Query) : Server × Except Error q.Row :=
  match q.precheck with
  | .error e => (s, .error e)
  | .ok () =>
    let (s, reply) := s.send q.statement
    (s, q.ofReply reply)

def ensureSchema (s : Server) (schema : String) : Server × Except Error Unit :=
  match s.unavailable? with
  | some failure => (s, .error (failure.toError "ensure_schema"))
  | none =>
    let (s, reply) := s.settle.send ⟨schema, []⟩
    (s, (reply.count.map fun _ => ()).mapError (·.toError "ensure_schema"))

/-- Gives out no more connections. -/
def close (s : Server) : Server := { s.settle with closed := true }

end Server

/-- The options of a session: how long its statements may run and wait for locks. -/
def sessionOptions (settings : LedgerSettings) : String :=
  s!"-c statement_timeout={settings.statementTimeout} -c lock_timeout={settings.lockTimeout}"

/-- A URL starts with a scheme and a colon. -/
def isUrl (text : String) : Bool := text.toList.contains ':'

/-- A server that starts up or has too many connections is asked again. -/
def ServerError.isTransient (e : ServerError) : Bool :=
  e.code = some "53300" || e.code = some "57P03"

/-- Connects to a server, which may refuse the connection. A refusal that may pass is tried again
until there is no more time to wait. -/
def connect (databaseUrl : String) (refusal : Option ServerError) : Except Error Server :=
  if !isUrl databaseUrl then
    .error ((Failure.configuration "not a URL").toError "connect")
  else
    match refusal with
    | none => .ok {}
    | some e =>
      if e.isTransient then .error (Failure.poolTimedOut.toError "connect")
      else .error ((Failure.server e).toError "connect")

end Passbook.Sql
