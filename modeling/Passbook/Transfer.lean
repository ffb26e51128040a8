import Passbook.Entry

/-!
# Transfers

A transfer moves an amount from one account to another. A request for one names its currency too,
and is checked against the two accounts before the transfer is carried out.
-/
namespace Passbook

/-- A recorded transfer; its amount is positive. -/
structure Transfer where
  id : TransferId
  fromAccountId : AccountId
  toAccountId : AccountId
  amount : Int64
  createdAt : Instant
  deriving DecidableEq, Repr

namespace Transfer

instance : Encode Transfer :=
  ⟨fun t => .object [("id", encode t.id), ("from_account_id", encode t.fromAccountId),
    ("to_account_id", encode t.toAccountId), ("amount", encode t.amount),
    ("created_at", encode t.createdAt)]⟩

instance : Decode Transfer :=
  ⟨fun json => do
    let fields ← json.fields? ["id", "from_account_id", "to_account_id", "amount", "created_at"]
    pure ⟨← fields.required "id", ← fields.required "from_account_id",
      ← fields.required "to_account_id", ← fields.required "amount",
      ← fields.required "created_at"⟩⟩

end Transfer

/-- A transfer to be carried out. -/
structure NewTransfer where
  fromAccountId : AccountId
  toAccountId : AccountId
  amount : Int64
  deriving DecidableEq, Repr

namespace NewTransfer

instance : Encode NewTransfer :=
  ⟨fun t => .object [("from_account_id", encode t.fromAccountId),
    ("to_account_id", encode t.toAccountId), ("amount", encode t.amount)]⟩

instance : Decode NewTransfer :=
  ⟨fun json => do
    let fields ← json.fields? ["from_account_id", "to_account_id", "amount"]
    pure ⟨← fields.required "from_account_id", ← fields.required "to_account_id",
      ← fields.required "amount"⟩⟩

end NewTransfer

/-- A page of the transfers between two accounts, in either direction. -/
structure TransferPage where
  fromAccountId : AccountId
  toAccountId : AccountId
  limit : UInt32
  offset : UInt32
  deriving DecidableEq, Repr

namespace TransferPage

/-- The transfer is between the two accounts. -/
def admits (page : TransferPage) (t : Transfer) : Bool :=
  (t.fromAccountId = page.fromAccountId && t.toAccountId = page.toAccountId) ||
    (t.fromAccountId = page.toAccountId && t.toAccountId = page.fromAccountId)

instance : Decode TransferPage :=
  ⟨fun json => do
    let fields ← json.fields? ["from_account_id", "to_account_id", "limit", "offset"]
    pure ⟨← fields.required "from_account_id", ← fields.required "to_account_id",
      ← fields.required "limit", ← fields.required "offset"⟩⟩

end TransferPage

/-- Everything that one committed transfer wrote. -/
structure Posting where
  transfer : Transfer
  fromEntry : Entry
  toEntry : Entry
  fromAccount : Account
  toAccount : Account
  deriving DecidableEq, Repr

namespace Posting

instance : Encode Posting :=
  ⟨fun p => .object [("transfer", encode p.transfer), ("from_entry", encode p.fromEntry),
    ("to_entry", encode p.toEntry), ("from_account", encode p.fromAccount),
    ("to_account", encode p.toAccount)]⟩

instance : Decode Posting :=
  ⟨fun json => do
    let fields ← json.fields? ["transfer", "from_entry", "to_entry", "from_account", "to_account"]
    pure ⟨← fields.required "transfer", ← fields.required "from_entry",
      ← fields.required "to_entry", ← fields.required "from_account",
      ← fields.required "to_account"⟩⟩

end Posting

/-- A transfer as a caller asks for it. -/
structure TransferRequest where
  fromAccountId : AccountId
  toAccountId : AccountId
  amount : Int64
  currency : Currency
  deriving DecidableEq, Repr

namespace TransferRequest

def transfer (request : TransferRequest) : NewTransfer :=
  ⟨request.fromAccountId, request.toAccountId, request.amount⟩

/-- An account is in the request's currency. -/
def checkCurrency (request : TransferRequest) (account : Account) : Except Error Unit :=
  if account.currency = request.currency then .ok ()
  else .error (.validation
    s!"account [{account.id}] currency mismatch: {account.currency} vs {request.currency}")

/-- What a caller makes sure of before the transfer: the amount is positive, the accounts are the
ones named and in the request's currency, and the source has the funds. -/
def checkPreconditions (request : TransferRequest) (source target : Account) :
    Except Error Unit := do
  if request.amount ≤ 0 then throw (.validation "amount must be positive")
  if source.id ≠ request.fromAccountId ∨ target.id ≠ request.toAccountId then
    throw (.validation "accounts do not match the request")
  request.checkCurrency source
  request.checkCurrency target
  if source.balance < request.amount then
    throw (.insufficientFunds source.id.value (-request.amount))

instance : Encode TransferRequest :=
  ⟨fun r => .object [("from_account_id", encode r.fromAccountId),
    ("to_account_id", encode r.toAccountId), ("amount", encode r.amount),
    ("currency", encode r.currency)]⟩

instance : Decode TransferRequest :=
  ⟨fun json => do
    let fields ← json.fields? ["from_account_id", "to_account_id", "amount", "currency"]
    pure ⟨← fields.required "from_account_id", ← fields.required "to_account_id",
      ← fields.required "amount", ← fields.required "currency"⟩⟩

end TransferRequest

end Passbook
