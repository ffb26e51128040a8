import Passbook.Json

/-!
# Values as JSON and back

`Encode` writes a value as JSON and `Decode` reads it, and each type of the ledger has both beside
its definition. A record is written as an object; it is read from an object, whose other fields are
ignored, or from an array that holds all its fields in the order of declaration and nothing else.
-/
namespace Passbook

class Encode (α : Type) where
  encode : α → Json

class Decode (α : Type) where
  decode : Json → Option α

export Encode (encode)
export Decode (decode)

instance : Encode Json := ⟨id⟩
instance : Decode Json := ⟨some⟩

instance : Encode Bool := ⟨.bool⟩
instance : Decode Bool := ⟨fun | .bool b => some b | _ => none⟩

instance : Encode String := ⟨.string⟩
instance : Decode String := ⟨fun | .string s => some s | _ => none⟩

instance : Encode Int64 := ⟨fun n => .integer n.toInt⟩
instance : Decode Int64 :=
  ⟨fun
    | .integer n =>
      if Int64.minValue.toInt ≤ n ∧ n ≤ Int64.maxValue.toInt then some (Int64.ofInt n) else none
    | _ => none⟩

instance : Encode UInt32 := ⟨fun n => .integer n.toNat⟩
instance : Decode UInt32 :=
  ⟨fun
    | .integer n => if 0 ≤ n ∧ n < UInt32.size then some (UInt32.ofNat n.toNat) else none
    | _ => none⟩

instance : Encode UInt64 := ⟨fun n => .integer n.toNat⟩
instance : Decode UInt64 :=
  ⟨fun
    | .integer n => if 0 ≤ n ∧ n < UInt64.size then some (UInt64.ofNat n.toNat) else none
    | _ => none⟩

/-- A number of either form is read as binary64. -/
instance : Decode Float :=
  ⟨fun
    | .integer n => some (Float.ofInt n)
    | .double bits => some (Float.ofBits bits)
    | _ => none⟩

instance {α : Type} [Encode α] : Encode (Option α) := ⟨fun | some a => encode a | none => .null⟩

/-- `null` is the absent value. -/
instance {α : Type} [Decode α] : Decode (Option α) :=
  ⟨fun | .null => some none | json => (decode json).map some⟩

instance {α : Type} [Encode α] : Encode (List α) := ⟨fun as => .array (as.map encode)⟩
instance {α : Type} [Decode α] : Decode (List α) :=
  ⟨fun | .array items => items.mapM decode | _ => none⟩

/-- The name of an enumerated value: a string, or an object whose one field has that name and is
`null`. -/
def Json.enumName? : Json → Option String
  | .string name => some name
  | .object [(name, .null)] => some name
  | _ => none

/-- The fields of a record, by name. -/
abbrev Fields := String → Option Json

namespace Json

/-- The fields of a record whose fields are declared in the order `names`. -/
def fields? (names : List String) : Json → Option Fields
  | .object fields => some fun name => fields.lookup name
  | .array items =>
    if items.length = names.length then some fun name => (names.zip items).lookup name else none
  | _ => none

end Json

namespace Fields

variable {α : Type} [Decode α]

/-- A field that must be there. -/
def required (fields : Fields) (name : String) : Option α := (fields name).bind decode

/-- A field that may be absent or `null`. -/
def optional (fields : Fields) (name : String) : Option (Option α) :=
  match fields name with
  | none => some none
  | some json => decode json

/-- A field that stands for `default` when absent. -/
def withDefault (fields : Fields) (name : String) (default : α) : Option α :=
  match fields name with
  | none => some default
  | some json => decode json

end Fields

end Passbook
