import Passbook.Error
import Passbook.Json.Codec

/-!
# Money

Amounts are whole minor units in 64 bits, tagged with a currency. Sums are exact: one that leaves
64 bits is an error and never wraps.
-/
namespace Passbook

/-- The sum of two words, unless it leaves their range. -/
def exactSum? (a b : Int64) : Option Int64 :=
  let sum := a.toInt + b.toInt
  if Int64.minValue.toInt ≤ sum ∧ sum ≤ Int64.maxValue.toInt then some (Int64.ofInt sum)
  else none

/-- Three upper-case ASCII letters. -/
def isCurrencyCode (code : String) : Bool :=
  code.toList.length = 3 && code.toList.all fun c => 'A' ≤ c && c ≤ 'Z'

/-- A currency, named by its code. -/
structure Currency where
  code : String
  wellFormed : isCurrencyCode code = true := by decide
  deriving DecidableEq, Repr

namespace Currency

def ofCode (code : String) : Except Error Currency :=
  if h : isCurrencyCode code = true then .ok ⟨code, h⟩
  else .error (.validation s!"currency code must be three upper-case letters, got '{code}'")

def usd : Currency := ⟨"USD", by decide⟩

/-- The codes of the currencies that accounts are meant to be opened in. -/
def supported : List String := ["USD", "EUR", "INR"]

def isSupported (currency : Currency) : Bool := supported.contains currency.code

instance : ToString Currency := ⟨Currency.code⟩

instance : Encode Currency := ⟨fun currency => .string currency.code⟩
instance : Decode Currency :=
  ⟨fun | .string code => (ofCode code).toOption | _ => none⟩

end Currency

/-- An amount of a currency. -/
structure Money where
  amount : Int64
  currency : Currency
  deriving DecidableEq, Repr

namespace Money

/-- The sum of two amounts of one currency. -/
def add (a b : Money) : Except Error Money :=
  if a.currency ≠ b.currency then
    .error (.validation s!"currency mismatch: {a.currency} vs {b.currency}")
  else
    match exactSum? a.amount b.amount with
    | some amount => .ok ⟨amount, a.currency⟩
    | none => .error (.validation "amount overflow")

instance : Encode Money :=
  ⟨fun m => .object [("amount", encode m.amount), ("currency", encode m.currency)]⟩

instance : Decode Money :=
  ⟨fun json => do
    let fields ← json.fields? ["amount", "currency"]
    pure ⟨← fields.required "amount", ← fields.required "currency"⟩⟩

end Money

end Passbook
