import Passbook.Outbox.Message
import Passbook.Time.Span

/-!
# Retries

A retry policy says how often a delivery is tried and how long to wait in between. The delay is
computed in binary64 and cut to whole milliseconds of 64 bits; a retry that would lie beyond the
last representable instant is no retry, and the message is given up.
-/
namespace Passbook.Outbox

/-- How the delay grows with the attempts. -/
inductive Backoff
  | fixed
  /-- The delay doubles with every attempt. -/
  | exponential
  /-- The delay grows by the base with every attempt. -/
  | linear
  deriving DecidableEq, Repr

namespace Backoff

instance : Inhabited Backoff := ⟨.exponential⟩

def name : Backoff → String
  | .fixed => "fixed"
  | .exponential => "exponential"
  | .linear => "linear"

def ofName? : String → Option Backoff
  | "fixed" => some .fixed
  | "exponential" => some .exponential
  | "linear" => some .linear
  | _ => none

instance : Encode Backoff := ⟨fun strategy => .string strategy.name⟩
instance : Decode Backoff := ⟨fun json => json.enumName?.bind ofName?⟩

end Backoff

/-- What becomes of a message whose delivery has failed. -/
inductive Disposition
  | retryAt (instant : Instant)
  | deadLetter
  deriving DecidableEq, Repr

/-- How deliveries are repeated. -/
structure RetryPolicy where
  /-- Deliveries tried before the message is given up. -/
  maxAttempts : UInt32
  baseDelay : Span
  maxDelay : Span
  strategy : Backoff
  /-- The share of the delay by which it may vary. -/
  jitter : Float

namespace RetryPolicy

/-- Five attempts, from half a second doubling up to a minute. -/
def standard : RetryPolicy where
  maxAttempts := 5
  baseDelay := .ofMillis 500
  maxDelay := .ofMillis 60000
  strategy := .exponential
  jitter := 0.1

instance : Inhabited RetryPolicy := ⟨standard⟩

/-- The first failure is final. -/
def noRetry : RetryPolicy := { standard with maxAttempts := 1 }

/-- The same delay before every attempt. -/
def fixed (maxAttempts : UInt32) (delay : Span) : RetryPolicy where
  maxAttempts
  baseDelay := delay
  maxDelay := delay
  strategy := .fixed
  jitter := 0.0

/-- A delay that doubles up to a limit. -/
def exponential (maxAttempts : UInt32) (baseDelay maxDelay : Span) : RetryPolicy where
  maxAttempts
  baseDelay
  maxDelay
  strategy := .exponential
  jitter := 0.1

/-- The delay before jitter, in milliseconds. -/
def plainDelay (policy : RetryPolicy) (attempts : UInt32) : Float :=
  let base := Float.ofNat policy.baseDelay.toMillis
  let limit := Float.ofNat policy.maxDelay.toMillis
  match policy.strategy with
  | .fixed => base
  | .exponential =>
    let delay := base * Float.ofNat (Nat.pow 2 (min (attempts.toNat - 1) 30))
    if delay < limit then delay else limit
  | .linear =>
    let delay := base * Float.ofNat attempts.toNat
    if delay < limit then delay else limit

/-- The jitter of a delay: a share of it that depends on the number of attempts alone, so that the
retries of one batch do not fall together. -/
def spread (policy : RetryPolicy) (attempts : UInt32) (delay : Float) : Float :=
  let range := delay * policy.jitter
  if range > 0.0 then
    let share := Float.ofNat (attempts.toNat * 17 % 100) / 100.0
    range * (share - 0.5) * 2.0
  else 0.0

/-- The delay after so many failed attempts, in milliseconds. The conversion cuts off the fraction
and stays within 64 bits: what is negative or not a number is zero. -/
def delayMillis (policy : RetryPolicy) (attempts : UInt32) : UInt64 :=
  if attempts = 0 then 0
  else
    let delay := policy.plainDelay attempts
    (delay + policy.spread attempts delay).toUInt64

def shouldRetry (policy : RetryPolicy) (attempts : UInt32) : Bool := attempts < policy.maxAttempts

/-- What becomes of a message when the attempt of that number has failed. -/
def onFailure (policy : RetryPolicy) (attempts : UInt32) (now : Instant) : Disposition :=
  if policy.shouldRetry attempts then
    let delay := (policy.delayMillis attempts).toNat
    if delay ≤ Int64.maxValue.toInt then
      match now.addMillis? delay with
      | some instant => .retryAt instant
      | none => .deadLetter
    else .deadLetter
  else .deadLetter

instance : Encode RetryPolicy :=
  ⟨fun p => .object [("max_attempts", encode p.maxAttempts), ("base_delay", encode p.baseDelay),
    ("max_delay", encode p.maxDelay), ("strategy", encode p.strategy),
    ("jitter", .double p.jitter.toBits)]⟩

instance : Decode RetryPolicy :=
  ⟨fun json => do
    let fields ← json.fields? ["max_attempts", "base_delay", "max_delay", "strategy", "jitter"]
    pure ⟨← fields.required "max_attempts", ← fields.required "base_delay",
      ← fields.required "max_delay", ← fields.required "strategy", ← fields.required "jitter"⟩⟩

end RetryPolicy

end Passbook.Outbox
