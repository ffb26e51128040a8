import Passbook.Error
import Passbook.Order
import Passbook.Text.Integer
import Passbook.Uuid

/-!
# Identifiers

Accounts, entries, transfers and outbox messages are numbered; the kind of row is part of the type,
so an account's number is never taken for a transfer's. Sessions are named by UUIDs.
-/
namespace Passbook

/-- The kinds of rows that are numbered. -/
inductive RowKind
  | account
  | entry
  | transfer
  | outbox
  deriving DecidableEq, Repr

/-- The name of the identifiers of a kind of rows. -/
def RowKind.idName : RowKind → String
  | .account => "AccountId"
  | .entry => "EntryId"
  | .transfer => "TransferId"
  | .outbox => "OutboxId"

/-- The number of a row. -/
structure Id (kind : RowKind) where
  value : Int64
  deriving DecidableEq, Repr, Inhabited

abbrev AccountId := Id .account

abbrev EntryId := Id .entry

abbrev TransferId := Id .transfer

abbrev OutboxId := Id .outbox

namespace Id

variable {kind : RowKind}

instance : Ord (Id kind) := ⟨compareOn Id.value⟩

instance : Std.TransOrd (Id kind) := inferInstanceAs (Std.TransCmp (compareOn Id.value))

instance : Std.LawfulEqOrd (Id kind) :=
  lawfulEqOn Id.value fun a b h => by cases a; cases b; simp_all

def render (id : Id kind) : String := toString id.value.toInt

instance : ToString (Id kind) := ⟨render⟩

def parse (kind : RowKind) (text : String) : Except Error (Id kind) :=
  match Text.parseInt64 text with
  | .ok n => .ok ⟨n⟩
  | .error fault => .error (.validation s!"{kind.idName}: {fault.message}")

instance : Encode (Id kind) := ⟨fun id => encode id.value⟩
instance : Decode (Id kind) := ⟨fun json => (decode json).map Id.mk⟩

end Id

/-- The name of a session. -/
structure SessionId where
  uuid : Uuid
  deriving DecidableEq, Repr

namespace SessionId

instance : Ord SessionId := ⟨compareOn SessionId.uuid⟩

instance : Std.TransOrd SessionId := inferInstanceAs (Std.TransCmp (compareOn SessionId.uuid))

instance : Std.LawfulEqOrd SessionId :=
  lawfulEqOn SessionId.uuid fun a b h => by cases a; cases b; simp_all

/-- The hyphenated form. -/
def render (id : SessionId) : String := id.uuid.render

instance : ToString SessionId := ⟨render⟩

/-- Reads any spelling of a UUID. -/
def parse (text : String) : Except Error SessionId :=
  match Uuid.parse? text with
  | some uuid => .ok ⟨uuid⟩
  | none => .error (.validation "SessionId: not a UUID")

instance : Encode SessionId := ⟨fun id => encode id.uuid⟩
instance : Decode SessionId := ⟨fun json => (decode json).map SessionId.mk⟩

end SessionId

end Passbook
