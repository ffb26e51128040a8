import Passbook.Transfer

/-!
# Lock order

Work that locks more than one account takes the locks in ascending order of the accounts, whatever
the accounts' roles are. Two transfers between the same accounts in opposite directions then both
start with the lower account, and neither can hold one while it waits for the other.
-/
namespace Passbook

/-- Things that lock one account. -/
class LockKey (α : Type) where
  lockKey : α → AccountId

export LockKey (lockKey)

instance : LockKey AccountId := ⟨id⟩
instance : LockKey Account := ⟨Account.id⟩
instance : LockKey BalanceAdjustment := ⟨BalanceAdjustment.accountId⟩

/-- Two things in lock order, with a note whether their given order was turned around. -/
structure OrderedPair (α : Type) where
  first : α
  second : α
  swapped : Bool
  deriving DecidableEq, Repr

namespace OrderedPair

variable {α : Type}

/-- The pair in lock order; with equal keys the given order stays. -/
def ofPair [LockKey α] (a b : α) : OrderedPair α :=
  if (lockKey b).value < (lockKey a).value then ⟨b, a, true⟩ else ⟨a, b, false⟩

/-- Both things, in lock order. -/
def toList (pair : OrderedPair α) : List α := [pair.first, pair.second]

/-- Results that were made in lock order, in the order in which the things were given. -/
def restore {β : Type} (pair : OrderedPair α) (first second : β) : β × β :=
  if pair.swapped then (second, first) else (first, second)

end OrderedPair

/-- Any number of things in lock order; with equal keys the given order stays. -/
def lockOrdered {α : Type} [LockKey α] (items : List α) : List α :=
  items.mergeSort fun a b => (lockKey a).value ≤ (lockKey b).value

end Passbook
