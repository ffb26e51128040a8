import Passbook.Account

/-!
# Entries

An entry records one change of one account. Entries are never changed or deleted.
-/
namespace Passbook

/-- A recorded change of an account: a credit when positive, a debit when negative. -/
structure Entry where
  id : EntryId
  accountId : AccountId
  amount : Int64
  createdAt : Instant
  deriving DecidableEq, Repr

namespace Entry

def isDebit (entry : Entry) : Bool := entry.amount < 0

instance : Encode Entry :=
  ⟨fun e => .object [("id", encode e.id), ("account_id", encode e.accountId),
    ("amount", encode e.amount), ("created_at", encode e.createdAt)]⟩

instance : Decode Entry :=
  ⟨fun json => do
    let fields ← json.fields? ["id", "account_id", "amount", "created_at"]
    pure ⟨← fields.required "id", ← fields.required "account_id", ← fields.required "amount",
      ← fields.required "created_at"⟩⟩

end Entry

/-- An entry to be recorded. -/
structure NewEntry where
  accountId : AccountId
  amount : Int64
  deriving DecidableEq, Repr

instance : Decode NewEntry :=
  ⟨fun json => do
    let fields ← json.fields? ["account_id", "amount"]
    pure ⟨← fields.required "account_id", ← fields.required "amount"⟩⟩

/-- A page of the entries of one account. -/
structure EntryPage where
  accountId : AccountId
  limit : UInt32 := 100
  offset : UInt32 := 0
  deriving DecidableEq, Repr

namespace EntryPage

def ofAccount (accountId : AccountId) : EntryPage := { accountId }

/-- The entry is on one of the account's pages. -/
def admits (page : EntryPage) (entry : Entry) : Bool := entry.accountId = page.accountId

instance : Encode EntryPage :=
  ⟨fun p => .object [("account_id", encode p.accountId), ("limit", encode p.limit),
    ("offset", encode p.offset)]⟩

instance : Decode EntryPage :=
  ⟨fun json => do
    let fields ← json.fields? ["account_id", "limit", "offset"]
    pure ⟨← fields.required "account_id", ← fields.required "limit", ← fields.required "offset"⟩⟩

end EntryPage

end Passbook
