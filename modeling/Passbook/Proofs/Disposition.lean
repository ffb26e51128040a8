import Passbook.Outbox.Retry

/-!
# What becomes of a failed delivery

A failed delivery is repeated when there are attempts left and when the time of the next one can be
written down: the delay in 64 bits with a sign, the instant in the calendar
(`RetryPolicy.onFailure_total`). The next attempt is then exactly the delay later. Nothing is said
of how the delay is computed, only that it fits 64 bits.
-/

namespace Passbook

-- ---------------------------------------------------------------------------
-- Instants
-- ---------------------------------------------------------------------------

namespace Instant

variable {t u : Instant} {second : Int} {nanos millis : Nat}

/-- The nanoseconds that pass from one instant to another one. `sinceEpoch` does not count leap
seconds, so one that is left behind is made up for. -/
def elapsed (t u : Instant) : Int :=
  u.sinceEpoch - t.sinceEpoch + if t.isLeap ∧ t.second < u.second then nanosPerSecond else 0

/-- So many nanoseconds pass from `t` to `u`. No leap second is foreseen: `u` is in one only when
`t` is already in it. -/
structure IsAfter (t : Instant) (nanos : Nat) (u : Instant) : Prop where
  elapsed : t.elapsed u = nanos
  foreseen : u.isLeap → t.isLeap ∧ u.second = t.second

/-- The last instant that can follow `t`. The last second is a long one only when `t` is already in
its second half. -/
def latest (t : Instant) : Instant :=
  if t.isLeap ∧ t.second = lastSecond then ⟨lastSecond, 2 * nanosPerSecond - 1, by decide⟩
  else ⟨lastSecond, nanosPerSecond - 1, by decide⟩

theorem isLeap_iff : t.isLeap ↔ nanosPerSecond ≤ t.nanos := decide_eq_true_iff

theorem ofParts?_isSome : (ofParts? second nanos).isSome ↔ Representable second nanos := by
  unfold ofParts?
  split
  · next fits => exact iff_of_true rfl fits
  · next misfit => exact iff_of_false Bool.false_ne_true misfit

theorem ofParts?_eq_some :
    ofParts? second nanos = some u ↔ u.second = second ∧ u.nanos = nanos := by
  constructor
  · intro h
    unfold ofParts? at h
    split at h
    · obtain rfl := Option.some.inj h
      exact ⟨rfl, rfl⟩
    · exact nomatch h
  · rintro ⟨rfl, rfl⟩
    exact dif_pos u.representable

theorem addMillis?_eq_some : t.addMillis? millis = some u ↔ t.IsAfter (millis * 1000000) u := by
  have ht := t.representable.2.2
  have hu := u.representable.2.2
  have parts : t.IsAfter (millis * 1000000) u ↔
      (t.elapsed u = (millis * 1000000 : Nat) ∧ (u.isLeap → t.isLeap ∧ u.second = t.second)) :=
    ⟨fun h => ⟨h.elapsed, h.foreseen⟩, fun h => ⟨h.1, h.2⟩⟩
  rw [parts]
  simp only [addMillis?, elapsed, sinceEpoch, isLeap_iff, nanosPerSecond] at ht hu ⊢
  split
  · -- The leap second lasts long enough.
    rw [ofParts?_eq_some]
    split <;> omega
  · rw [ofParts?_eq_some]
    split <;> omega

theorem elapsed_latest : t.elapsed t.latest = (lastSecond - t.second) * nanosPerSecond +
    (if t.isLeap then 2 * nanosPerSecond else nanosPerSecond) - 1 - t.nanos := by
  have ht := t.representable
  simp only [Representable, elapsed, latest, sinceEpoch, isLeap_iff, nanosPerSecond,
    lastSecond] at ht ⊢
  by_cases last : 1000000000 ≤ t.nanos ∧ t.second = 8210266876799
  · simp only [if_pos last, if_pos last.1]
    split <;> omega
  · simp only [if_neg last]
    split <;> split <;> omega

/-- The delay can be added as long as the latest instant is not passed. -/
theorem addMillis?_isSome :
    (t.addMillis? millis).isSome ↔ (millis * 1000000 : Nat) ≤ t.elapsed t.latest := by
  have ht := t.representable
  rw [elapsed_latest]
  simp only [Representable, addMillis?, isLeap_iff, nanosPerSecond, firstSecond,
    lastSecond] at ht ⊢
  split
  · -- The leap second lasts long enough.
    rw [ofParts?_isSome]
    simp only [Representable, nanosPerSecond, firstSecond, lastSecond]
    split <;> omega
  · rw [ofParts?_isSome]
    simp only [Representable, nanosPerSecond, firstSecond, lastSecond]
    split <;> omega

theorem IsAfter.le (h : t.IsAfter nanos u) : t ≤ u := by
  have ht := t.representable.2.2
  have hu := u.representable.2.2
  have elapsed := h.elapsed
  have foreseen := h.foreseen
  show t.second < u.second ∨ t.second = u.second ∧ t.nanos ≤ u.nanos
  simp only [Instant.elapsed, sinceEpoch, isLeap_iff, nanosPerSecond] at ht hu elapsed foreseen
  split at elapsed <;> omega

/-- What is waited for in a leap second and after it is no longer than anywhere else. -/
example : elapsed ⟨59, 1500000000, by decide⟩ ⟨60, 500000000, by decide⟩ = 1000000000 := by decide

end Instant

-- ---------------------------------------------------------------------------
-- Failed deliveries
-- ---------------------------------------------------------------------------

namespace Outbox.RetryPolicy

variable {policy : RetryPolicy} {attempts : UInt32} {now instant : Instant}

/-- There is a next attempt: some are left, and its time can be written down. -/
structure Retries (policy : RetryPolicy) (attempts : UInt32) (now : Instant) : Prop where
  left : attempts < policy.maxAttempts
  short : (policy.delayMillis attempts).toNat ≤ Int64.maxValue.toInt
  reached : ((policy.delayMillis attempts).toNat * 1000000 : Nat) ≤ now.elapsed now.latest

theorem onFailure_exhausted (policy : RetryPolicy) (now : Instant)
    (exhausted : policy.maxAttempts ≤ attempts) : policy.onFailure attempts now = .deadLetter := by
  have none : ¬policy.shouldRetry attempts := by
    simpa [shouldRetry] using UInt32.not_lt.mpr exhausted
  rw [onFailure, if_neg none]

theorem onFailure_eq_retryAt : policy.onFailure attempts now = .retryAt instant ↔
    attempts < policy.maxAttempts ∧ (policy.delayMillis attempts).toNat ≤ Int64.maxValue.toInt ∧
      now.addMillis? (policy.delayMillis attempts).toNat = some instant := by
  simp only [onFailure, shouldRetry, decide_eq_true_eq]
  split
  · next left =>
    split
    · next short =>
      cases now.addMillis? (policy.delayMillis attempts).toNat with
      | none => exact iff_of_false (fun h => nomatch h) fun h => nomatch h.2.2
      | some other =>
        constructor
        · intro h
          exact ⟨left, short, congrArg some (Disposition.retryAt.inj h)⟩
        · intro h
          exact congrArg Disposition.retryAt (Option.some.inj h.2.2)
    · next long => exact iff_of_false (fun h => nomatch h) fun h => long h.2.1
  · next exhausted => exact iff_of_false (fun h => nomatch h) fun h => exhausted h.1

theorem onFailure_retries :
    (∃ instant, policy.onFailure attempts now = .retryAt instant) ↔
      policy.Retries attempts now := by
  simp only [onFailure_eq_retryAt, exists_and_left, ← Option.isSome_iff_exists,
    Instant.addMillis?_isSome]
  exact ⟨fun ⟨left, short, reached⟩ => ⟨left, short, reached⟩,
    fun h => ⟨h.left, h.short, h.reached⟩⟩

theorem onFailure_deadLetter :
    policy.onFailure attempts now = .deadLetter ↔ ¬policy.Retries attempts now := by
  rw [← onFailure_retries]
  cases policy.onFailure attempts now <;> simp

/-- A failed delivery is repeated if, and only if, an attempt is left and the delay fits both 64
bits with a sign and the calendar. It is repeated exactly the delay later, and so never before the
failure. A message whose attempts are used up is given up whenever it is looked at. -/
theorem onFailure_total (policy : RetryPolicy) (attempts : UInt32) (now : Instant) :
    let delay := (policy.delayMillis attempts).toNat
    delay < UInt64.size ∧
      ((∃ instant, policy.onFailure attempts now = .retryAt instant) ↔
        policy.Retries attempts now) ∧
      (policy.onFailure attempts now = .deadLetter ↔ ¬policy.Retries attempts now) ∧
      (∀ instant, policy.Retries attempts now →
        (policy.onFailure attempts now = .retryAt instant ↔
          now.IsAfter (delay * 1000000) instant)) ∧
      (∀ instant, policy.onFailure attempts now = .retryAt instant → now ≤ instant) ∧
      (policy.maxAttempts ≤ attempts → ∀ more, attempts ≤ more → ∀ later,
        policy.onFailure more later = .deadLetter) := by
  intro delay
  refine ⟨UInt64.toNat_lt _, onFailure_retries, onFailure_deadLetter, fun instant retries => ?_,
    fun instant retry => ?_, fun exhausted more h later => ?_⟩
  · rw [onFailure_eq_retryAt, Instant.addMillis?_eq_some]
    exact ⟨fun h => h.2.2, fun h => ⟨retries.left, retries.short, h⟩⟩
  · exact (Instant.addMillis?_eq_some.mp (onFailure_eq_retryAt.mp retry).2.2).le
  · exact onFailure_exhausted policy later (UInt32.le_trans exhausted h)

end Outbox.RetryPolicy

end Passbook
