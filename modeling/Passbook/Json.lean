/-!
# JSON values

The document values that accounts, users and outbox payloads are written as. A number is either a
whole number or a binary64 value, and the two are kept apart: `1` and `1.0` are different values,
and only the first one can be read as an identifier or an amount.
-/
namespace Passbook

/-- A JSON value. A binary64 number is held as its 64-bit pattern, so that equality is decidable. -/
inductive Json
  | null
  | bool (value : Bool)
  | integer (value : Int)
  | double (bits : UInt64)
  | string (value : String)
  | array (items : List Json)
  | object (fields : List (String × Json))
  deriving Inhabited

namespace Json

mutual

/-- Equality of two values, decided by walking both. -/
def same : Json → Json → Bool
  | .null, .null => true
  | .bool a, .bool b => a == b
  | .integer a, .integer b => a == b
  | .double a, .double b => a == b
  | .string a, .string b => a == b
  | .array a, .array b => sameItems a b
  | .object a, .object b => sameFields a b
  | _, _ => false

/-- Equality of two lists of values. -/
def sameItems : List Json → List Json → Bool
  | [], [] => true
  | a :: as, b :: bs => same a b && sameItems as bs
  | _, _ => false

/-- Equality of two lists of named values, order included. -/
def sameFields : List (String × Json) → List (String × Json) → Bool
  | [], [] => true
  | (n, a) :: as, (m, b) :: bs => n == m && (same a b && sameFields as bs)
  | _, _ => false

end

mutual

theorem eq_of_same : ∀ a b : Json, same a b = true → a = b
  | .null, b => by cases b <;> simp [same]
  | .bool _, b => by cases b <;> simp [same]
  | .integer _, b => by cases b <;> simp [same]
  | .double _, b => by cases b <;> simp [same]
  | .string _, b => by cases b <;> simp [same]
  | .array as, b => by
    cases b <;> simp only [same, Bool.false_eq_true, false_implies, array.injEq]
    exact eq_of_sameItems as _
  | .object as, b => by
    cases b <;> simp only [same, Bool.false_eq_true, false_implies, object.injEq]
    exact eq_of_sameFields as _

theorem eq_of_sameItems : ∀ as bs : List Json, sameItems as bs = true → as = bs
  | [], bs => by cases bs <;> simp [sameItems]
  | a :: as, [] => by simp [sameItems]
  | a :: as, b :: bs => by
    simp only [sameItems, Bool.and_eq_true, List.cons.injEq]
    exact fun h => ⟨eq_of_same a b h.1, eq_of_sameItems as bs h.2⟩

theorem eq_of_sameFields : ∀ as bs : List (String × Json), sameFields as bs = true → as = bs
  | [], bs => by cases bs <;> simp [sameFields]
  | a :: as, [] => by simp [sameFields]
  | (n, a) :: as, (m, b) :: bs => by
    simp only [sameFields, Bool.and_eq_true, beq_iff_eq, List.cons.injEq, Prod.mk.injEq]
    exact fun h => ⟨⟨h.1, eq_of_same a b h.2.1⟩, eq_of_sameFields as bs h.2.2⟩

end

mutual

theorem same_self : ∀ a : Json, same a a = true
  | .null | .bool _ | .integer _ | .double _ | .string _ => by simp [same]
  | .array as => by simpa [same] using sameItems_self as
  | .object as => by simpa [same] using sameFields_self as

theorem sameItems_self : ∀ as : List Json, sameItems as as = true
  | [] => rfl
  | a :: as => by simp [sameItems, same_self a, sameItems_self as]

theorem sameFields_self : ∀ as : List (String × Json), sameFields as as = true
  | [] => rfl
  | (n, a) :: as => by simp [sameFields, same_self a, sameFields_self as]

end

theorem same_iff {a b : Json} : same a b = true ↔ a = b :=
  ⟨eq_of_same a b, fun h => h ▸ same_self a⟩

instance : DecidableEq Json := fun a b => decidable_of_iff (same a b = true) same_iff

/-- The value of a field, when the value is an object that has it. -/
def field? (name : String) : Json → Option Json
  | .object fields => fields.lookup name
  | _ => none

/-- The value of a field, with `null` for one that is absent. -/
def fieldOrNull (json : Json) (name : String) : Json := (json.field? name).getD .null

/-- An object with its fields in the order given. -/
def record (fields : List (String × Json)) : Json := .object fields

end Json

end Passbook
