/-!
# Errors

Everything that can go wrong in the ledger is an `Error`, and callers act on its category: an error
of the infrastructure is worth another attempt, every other one is final. An error that also failed
to roll back has the category of the error that came first.
-/
namespace Passbook

/-- A failure, by its cause. -/
inductive Error
  | notFound (entity key : String)
  | conflict (reason : String)
  | insufficientFunds (accountId delta : Int64)
  | validation (reason : String)
  | infrastructure (operation reason : String)
  | lockTimeout (reason : String)
  | deadlock (reason : String)
  | sideEffect (reason : String)
  | rollbackFailed (error rollback : Error)
  deriving DecidableEq, Repr, Inhabited

/-- What a caller can do about an error. -/
inductive Category
  | notFound
  | conflict
  | insufficientFunds
  | validation
  | infrastructure
  | sideEffectFailure
  deriving DecidableEq, Repr

def Category.name : Category → String
  | .notFound => "NotFound"
  | .conflict => "Conflict"
  | .insufficientFunds => "InsufficientFunds"
  | .validation => "Validation"
  | .infrastructure => "Infrastructure"
  | .sideEffectFailure => "SideEffectFailure"

namespace Error

/-- The name of the cause. -/
def name : Error → String
  | .notFound .. => "NotFound"
  | .conflict _ => "Conflict"
  | .insufficientFunds .. => "InsufficientFunds"
  | .validation _ => "Validation"
  | .infrastructure .. => "Infrastructure"
  | .lockTimeout _ => "LockTimeout"
  | .deadlock _ => "Deadlock"
  | .sideEffect _ => "SideEffect"
  | .rollbackFailed .. => "RollbackFailed"

def message : Error → String
  | .notFound entity key => s!"{entity} not found: {key}"
  | .conflict reason => "conflict: " ++ reason
  | .insufficientFunds accountId delta =>
    s!"insufficient funds on account {accountId.toInt} for delta {delta.toInt}"
  | .validation reason => "validation failed: " ++ reason
  | .infrastructure operation reason => s!"infrastructure failure in {operation}: {reason}"
  | .lockTimeout reason => "lock wait timeout: " ++ reason
  | .deadlock reason => "deadlock detected: " ++ reason
  | .sideEffect reason => "side effect failed: " ++ reason
  | .rollbackFailed error rollback =>
    s!"tx error: {error.message}, rb error: {rollback.message}"

/-- The category of an error. A failed rollback does not change it. -/
def category : Error → Category
  | .notFound .. => .notFound
  | .conflict _ => .conflict
  | .insufficientFunds .. => .insufficientFunds
  | .validation _ => .validation
  | .infrastructure .. | .lockTimeout _ | .deadlock _ => .infrastructure
  | .sideEffect _ => .sideEffectFailure
  | .rollbackFailed error _ => error.category

/-- Another attempt may succeed. -/
def isRetryable (e : Error) : Bool := e.category = .infrastructure

def isNotFound (e : Error) : Bool := e.category = .notFound

/-- The error as the failure of a side effect; such an error stays as it is. -/
def intoSideEffect : Error → Error
  | .sideEffect reason => .sideEffect reason
  | e => .sideEffect e.message

end Error

end Passbook
