import Passbook.Json.Codec

/-!
# Spans of time

A span is whole seconds, below `2 ^ 64`, and nanoseconds below one second. It is written as an
object with both parts; nanoseconds of a second and more are carried over when it is read.
-/
namespace Passbook

/-- A length of time. -/
structure Span where
  seconds : UInt64
  nanos : Nat
  nanos_lt : nanos < 1000000000 := by decide
  deriving DecidableEq, Repr

namespace Span

/-- A span of whole milliseconds. -/
def ofMillis (millis : UInt64) : Span :=
  ⟨millis / 1000, (millis.toNat % 1000) * 1000000, by omega⟩

/-- The whole milliseconds of a span. -/
def toMillis (span : Span) : Nat := span.seconds.toNat * 1000 + span.nanos / 1000000

/-- The span of so many seconds and nanoseconds, unless the carry leaves the seconds' range. -/
def ofParts? (seconds : Nat) (nanos : Nat) : Option Span :=
  if seconds + nanos / 1000000000 < UInt64.size then
    some ⟨UInt64.ofNat (seconds + nanos / 1000000000), nanos % 1000000000, Nat.mod_lt _ (by decide)⟩
  else none

instance : Encode Span :=
  ⟨fun span => .object [("nanos", .integer span.nanos), ("secs", encode span.seconds)]⟩

/-- Unlike other records, a span is not read from an object with further fields. -/
instance : Decode Span :=
  ⟨fun json => do
    if let .object fields := json then
      if !fields.all fun (name, _) => name = "secs" || name = "nanos" then none
    let fields ← json.fields? ["secs", "nanos"]
    let seconds : UInt64 ← fields.required "secs"
    let nanos : UInt32 ← fields.required "nanos"
    ofParts? seconds.toNat nanos.toNat⟩

end Span

end Passbook
