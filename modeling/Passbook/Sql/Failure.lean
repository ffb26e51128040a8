import Passbook.Error

/-!
# Failures of a database server

What can go wrong between the ledger and its server, and the error that each failure is for the
ledger. The server names the cause of its own errors by a code of five characters.
-/
namespace Passbook.Sql

structure ServerError where
  code : Option String
  message : String
  constraint : Option String := none
  deriving DecidableEq, Repr

/-- A failure of a statement, or of the way to the server. -/
inductive Failure
  | server (e : ServerError)
  | rowNotFound
  | poolTimedOut
  | poolClosed
  | workerCrashed
  | io (text : String)
  | protocol (text : String)
  | configuration (text : String)
  | tls (text : String)
  | decode (text : String)
  | columnNotFound (name : String)
  /-- A column that must have a value has none. -/
  | unexpectedNull (column : String)
  deriving DecidableEq, Repr

namespace Failure

/-- The wording of the failures that have no error of their own. -/
def message : Failure → String
  | .server e => e.message
  | .rowNotFound => "no rows returned by a query that expected to return at least one row"
  | .poolTimedOut => "pool timed out while waiting for an open connection"
  | .poolClosed => "connection pool closed"
  | .workerCrashed => "attempted to communicate with a crashed background worker"
  | .io text => "error communicating with database: " ++ text
  | .protocol text => "encountered unexpected or invalid data: " ++ text
  | .configuration text => "error with configuration: " ++ text
  | .tls text => "error occurred while attempting to establish a TLS connection: " ++ text
  | .decode text => "error occurred while decoding: " ++ text
  | .columnNotFound name => "no column found for name: " ++ name
  | .unexpectedNull column =>
    "error occurred while decoding column " ++ "\"" ++ column ++ "\"" ++
      ": unexpected null; try decoding as an `Option`"

/-- The error that the server's error is for the ledger. A row that is referred to but missing is a
user's for sessions and an account's for everything else; while deleting, the same code says that
the row is still referred to. -/
def ofServer (operation : String) (e : ServerError) : Error :=
  let text := s!"database error in {operation}: {e.message}"
  match e.code with
  | some "23505" => .conflict text
  | some "23503" =>
    if "delete".toList.isPrefixOf operation.toList then .conflict text
    else if e.constraint.any fun c => "sessions_".toList.isPrefixOf c.toList then
      .notFound "user" text
    else .notFound "account" text
  | some "23514" | some "22003" => .validation text
  | some "40P01" => .deadlock text
  | some "55P03" => .lockTimeout text
  | _ => .infrastructure operation text

/-- The error that a failure is for the ledger. -/
def toError (operation : String) : Failure → Error
  | .server e => ofServer operation e
  | .rowNotFound => .notFound "row" operation
  | failure => .infrastructure operation failure.message

def violates (constraint : String) : Failure → Bool
  | .server e => e.code = some "23514" && e.constraint = some constraint
  | _ => false

end Failure

end Passbook.Sql
