import Passbook.Time.Calendar

/-!
# Instants

A point in time is a second, counted from 1970-01-01T00:00:00Z, and the nanoseconds that have passed
in it. The last second of a minute may be two seconds long: its second half is a leap second, which
is later than all of that second and earlier than all of the next. The representable instants are
those of the years from -262143 to 262142; arithmetic that would leave them has no result.
-/
namespace Passbook

namespace Instant

def nanosPerSecond : Nat := 1000000000

/-- The years of the representable instants. -/
def firstYear : Int := -262143

def lastYear : Int := 262142

def firstSecond : Int := -8334601228800

def lastSecond : Int := 8210266876799

example : firstSecond = Time.Date.dayNumber ⟨firstYear, 1, 1⟩ * 86400 := by decide

example : lastSecond + 1 = Time.Date.dayNumber ⟨lastYear + 1, 1, 1⟩ * 86400 := by decide

/-- A second and nanoseconds in it that are an instant. -/
def Representable (second : Int) (nanos : Nat) : Prop :=
  firstSecond ≤ second ∧ second ≤ lastSecond ∧
    (nanos < nanosPerSecond ∨ second % 60 = 59 ∧ nanos < 2 * nanosPerSecond)

instance (second : Int) (nanos : Nat) : Decidable (Representable second nanos) := by
  unfold Representable
  infer_instance

end Instant

/-- A point in time. -/
structure Instant where
  /-- Seconds since the start of 1970, leap seconds not counted. -/
  second : Int
  /-- Nanoseconds since the start of the second; in a leap second there are more than a second's. -/
  nanos : Nat
  representable : Instant.Representable second nanos := by decide
  deriving DecidableEq, Repr

namespace Instant

def epoch : Instant := ⟨0, 0, by decide⟩

instance : Inhabited Instant := ⟨epoch⟩

instance : LT Instant :=
  ⟨fun a b => a.second < b.second ∨ a.second = b.second ∧ a.nanos < b.nanos⟩
instance : LE Instant :=
  ⟨fun a b => a.second < b.second ∨ a.second = b.second ∧ a.nanos ≤ b.nanos⟩
instance (a b : Instant) : Decidable (a < b) :=
  inferInstanceAs (Decidable (a.second < b.second ∨ a.second = b.second ∧ a.nanos < b.nanos))
instance (a b : Instant) : Decidable (a ≤ b) :=
  inferInstanceAs (Decidable (a.second < b.second ∨ a.second = b.second ∧ a.nanos ≤ b.nanos))

/-- The instant of a second and nanoseconds, if it is representable. -/
def ofParts? (second : Int) (nanos : Nat) : Option Instant :=
  if h : Representable second nanos then some ⟨second, nanos, h⟩ else none

/-- The instant so many nanoseconds after the start of 1970, if it is representable. -/
def ofNanos? (nanos : Int) : Option Instant :=
  ofParts? (nanos / nanosPerSecond) (nanos % nanosPerSecond).toNat

/-- The nanoseconds since the start of 1970; a leap second counts as the one after it. -/
def sinceEpoch (t : Instant) : Int := t.second * nanosPerSecond + t.nanos

def isLeap (t : Instant) : Bool := nanosPerSecond ≤ t.nanos

/-- The instant `millis` milliseconds later, if it is representable. Time that is spent within a
leap second is spent in it; one that is left behind is taken as the second before it. -/
def addMillis? (t : Instant) (millis : Nat) : Option Instant :=
  let nanos := millis % 1000 * 1000000
  if t.isLeap ∧ millis < 1000 ∧ t.nanos + nanos < 2 * nanosPerSecond then
    ofParts? t.second (t.nanos + nanos)
  else
    let sum := t.nanos % nanosPerSecond + nanos
    ofParts? (t.second + (millis / 1000 + sum / nanosPerSecond : Nat)) (sum % nanosPerSecond)

end Instant

end Passbook
