import Passbook.Id
import Passbook.Money
import Passbook.Text.Blank
import Passbook.Time.Rfc3339

/-!
# Accounts

An account holds a balance in one currency. A balance is changed by a delta, and a change that
would leave 64 bits or go below zero is refused.
-/
namespace Passbook

structure Account where
  id : AccountId
  owner : String
  balance : Int64
  currency : Currency
  createdAt : Instant
  deriving DecidableEq, Repr

namespace Account

def money (account : Account) : Money := ⟨account.balance, account.currency⟩

/-- The balance after a change by `delta`. -/
def balanceAfter (account : Account) (delta : Int64) : Except Error Int64 :=
  match exactSum? account.balance delta with
  | none => .error (.validation "balance overflow")
  | some next =>
    if next < 0 then .error (.insufficientFunds account.id.value delta) else .ok next

instance : Encode Account :=
  ⟨fun a => .object [("id", encode a.id), ("owner", encode a.owner), ("balance", encode a.balance),
    ("currency", encode a.currency), ("created_at", encode a.createdAt)]⟩

instance : Decode Account :=
  ⟨fun json => do
    let fields ← json.fields? ["id", "owner", "balance", "currency", "created_at"]
    pure ⟨← fields.required "id", ← fields.required "owner", ← fields.required "balance",
      ← fields.required "currency", ← fields.required "created_at"⟩⟩

end Account

/-- An account to be opened. -/
structure NewAccount where
  owner : String
  balance : Int64
  currency : Currency
  deriving DecidableEq, Repr

namespace NewAccount

/-- The owner is not blank and the opening balance not negative. -/
def validate (account : NewAccount) : Except Error Unit :=
  if Text.allBlank account.owner then .error (.validation "owner must not be empty")
  else if account.balance < 0 then .error (.validation "opening balance must not be negative")
  else .ok ()

instance : Encode NewAccount :=
  ⟨fun a => .object [("owner", encode a.owner), ("balance", encode a.balance),
    ("currency", encode a.currency)]⟩

instance : Decode NewAccount :=
  ⟨fun json => do
    let fields ← json.fields? ["owner", "balance", "currency"]
    pure ⟨← fields.required "owner", ← fields.required "balance", ← fields.required "currency"⟩⟩

end NewAccount

/-- A balance to be set whatever the old one was. -/
structure BalanceOverwrite where
  id : AccountId
  balance : Int64
  deriving DecidableEq, Repr

namespace BalanceOverwrite

instance : Decode BalanceOverwrite :=
  ⟨fun json => do
    let fields ← json.fields? ["id", "balance"]
    pure ⟨← fields.required "id", ← fields.required "balance"⟩⟩

end BalanceOverwrite

/-- A change of one account's balance. -/
structure BalanceAdjustment where
  accountId : AccountId
  delta : Int64
  deriving DecidableEq, Repr

namespace BalanceAdjustment

instance : Encode BalanceAdjustment :=
  ⟨fun a => .object [("account_id", encode a.accountId), ("delta", encode a.delta)]⟩

instance : Decode BalanceAdjustment :=
  ⟨fun json => do
    let fields ← json.fields? ["account_id", "delta"]
    pure ⟨← fields.required "account_id", ← fields.required "delta"⟩⟩

end BalanceAdjustment

/-- A page of the accounts, of one owner or of all. -/
structure AccountPage where
  owner : Option String := none
  limit : UInt32 := 10
  offset : UInt32 := 0
  deriving DecidableEq, Repr

namespace AccountPage

/-- The owner's accounts are on the page. -/
def admits (page : AccountPage) (account : Account) : Bool :=
  match page.owner with
  | none => true
  | some owner => account.owner = owner

instance : Encode AccountPage :=
  ⟨fun p => .object [("owner", encode p.owner), ("limit", encode p.limit),
    ("offset", encode p.offset)]⟩

instance : Decode AccountPage :=
  ⟨fun json => do
    let fields ← json.fields? ["owner", "limit", "offset"]
    pure ⟨← fields.optional "owner", ← fields.required "limit", ← fields.required "offset"⟩⟩

end AccountPage

end Passbook
