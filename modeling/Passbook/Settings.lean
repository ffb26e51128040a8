import Passbook.Outbox.Retry
import Passbook.Text.Blank
import Passbook.Text.Integer

/-!
# Settings

The settings of a ledger come from variables of its surroundings. Only the address of the database
must be given. Numbers may have blanks around them, and of several wrong variables the first in the
order of reading is reported.
-/
namespace Passbook

inductive SettingsError
  | missing (name : String)
  | invalid (name value : String)
  deriving DecidableEq, Repr

def SettingsError.message : SettingsError → String
  | .missing name => s!"missing environment variable {name}"
  | .invalid name value => s!"invalid value for {name}: {value}"

/-- The variables of the surroundings. -/
abbrev Environment := String → Option String

/-- A numeric variable, or `default` when it is not set. -/
def Environment.number (env : Environment) (name : String) (bound default : Nat) :
    Except SettingsError Nat :=
  match env name with
  | none => .ok default
  | some raw =>
    match Text.parseNat bound (Text.trim raw) with
    | .ok n => .ok n
    | .error _ => .error (.invalid name raw)

/-- The settings of a ledger; times are in milliseconds. -/
structure LedgerSettings where
  databaseUrl : String := ""
  maxConnections : Nat := 10
  /-- How long a transaction may wait for a connection. -/
  acquireTimeout : Nat := 5000
  /-- How long a statement may run. -/
  statementTimeout : Nat := 30000
  /-- How long a statement may wait for a row lock. -/
  lockTimeout : Nat := 5000
  deriving DecidableEq, Repr

namespace LedgerSettings

def ofEnvironment (env : Environment) : Except SettingsError LedgerSettings := do
  let defaults : LedgerSettings := {}
  let databaseUrl ← match env "DATABASE_URL" with
    | some url => pure url
    | none => throw (.missing "DATABASE_URL")
  let maxConnections ← env.number "DB_MAX_CONNECTIONS" UInt32.size defaults.maxConnections
  let acquireTimeout ← env.number "DB_ACQUIRE_TIMEOUT_MS" UInt64.size defaults.acquireTimeout
  let statementTimeout ← env.number "DB_STATEMENT_TIMEOUT_MS" UInt64.size defaults.statementTimeout
  let lockTimeout ← env.number "DB_LOCK_TIMEOUT_MS" UInt64.size defaults.lockTimeout
  pure { databaseUrl, maxConnections, acquireTimeout, statementTimeout, lockTimeout }

end LedgerSettings

structure DispatcherSettings where
  /-- How long to wait, in milliseconds, before an empty outbox is looked at again. -/
  pollInterval : Nat := 200
  /-- How many messages one pass takes on. -/
  batchSize : UInt32 := 32
  /-- The name under which the dispatcher is logged. -/
  name : String := "outbox-dispatcher"
  retryPolicy : Outbox.RetryPolicy := .standard

end Passbook
