import Passbook.Proofs.Keeping

/-!
# Trying again

A unit of work that may be run again is run until it succeeds, fails for good, or has been tried as
often as it may be (`runRetrying_runs`). What is returned is the outcome of the last attempt. Only
an attempt that succeeds commits, and that is always the last one, so of all that the attempts have
done the committed rows keep what the last one has, or nothing (`retrying_run`).

The unit may do something else each time it is called: `work n` is what it does after `n` calls. A
unit that remembers what its earlier calls were answered is such a family along each of its runs.
-/

namespace Passbook

open Store Dialogue Trace Action.Step

-- ---------------------------------------------------------------------------
-- Attempts
-- ---------------------------------------------------------------------------

namespace Work

/-- One of the attempts, with what it has asked for. -/
structure Trial (α : Type) extends Attempt α where
  steps : List Action.Step

def Trial.Retryable (trial : Trial α) : Prop :=
  ∃ e, trial.outcome = .error e ∧ e.isRetryable

/-- How often the unit has been called before the attempt after this one. -/
def Trial.startsAfter (trial : Trial α) (starts : Nat) : Nat :=
  if trial.started then starts + 1 else starts

/-- The unit is called once in each attempt whose transaction was begun. `starts` is how often it
was called before the first of these. -/
inductive Trials (work : Nat → Work α) : (starts : Nat) → List (Trial α) → Prop
  | nil : Trials work starts []
  | cons {trial : Trial α} {rest : List (Trial α)} :
      Course (work starts) trial.steps trial.toAttempt →
      Trials work (trial.startsAfter starts) rest → Trials work starts (trial :: rest)

/-- There are no more than `limit` attempts, and none after the first that succeeds or fails for
good. -/
structure Attempts (work : Nat → Work α) (starts limit : Nat) (earlier : List (Trial α))
    (last : Trial α) : Prop where
  trials : Trials work starts (earlier ++ [last])
  again : ∀ trial ∈ earlier, trial.Retryable
  limited : earlier.length < limit
  stops : last.Retryable → earlier.length + 1 = limit

def loggedRetry (attempt : Nat) : Except Error α → List Action.Step
  | .ok _ => []
  | .error e => [logged (.returned e), logged (.retrying attempt e)]

/-- What is asked for in attempts that are followed by another one. The first has this number. -/
def transcript : (attempt : Nat) → List (Trial α) → List Action.Step
  | _, [] => []
  | attempt, trial :: rest =>
    trial.steps ++ (loggedRetry attempt trial.outcome ++ transcript (attempt + 1) rest)

variable {work : Nat → Work α} {starts limit attempt : Nat} {earlier : List (Trial α)}
  {trial last : Trial α} {steps : List Action.Step} {outcome : Except Error α}

theorem not_retryable {a : α} (h : trial.outcome = .ok a) : ¬trial.Retryable :=
  fun ⟨_, failed, _⟩ => nomatch h.symm.trans failed

theorem retryable_iff {started : Bool} {e : Error} :
    (⟨⟨started, .error e⟩, steps⟩ : Trial α).Retryable ↔ e.isRetryable := by
  constructor
  · rintro ⟨_, failed, retryable⟩
    cases failed
    exact retryable
  · exact fun retryable => ⟨e, rfl, retryable⟩

theorem attempts_nil : Attempts work starts limit [] last ↔
    Course (work starts) last.steps last.toAttempt ∧ 0 < limit ∧ (last.Retryable → 1 = limit) := by
  constructor
  · rintro ⟨_ | ⟨course, _⟩, -, limited, stops⟩
    exact ⟨course, limited, stops⟩
  · rintro ⟨course, limited, stops⟩
    exact ⟨.cons course .nil, fun _ h => (nomatch h), limited, stops⟩

theorem attempts_cons : Attempts work starts (limit + 1) (trial :: earlier) last ↔
    Course (work starts) trial.steps trial.toAttempt ∧ trial.Retryable ∧
      Attempts work (trial.startsAfter starts) limit earlier last := by
  constructor
  · rintro ⟨_ | ⟨course, trials⟩, again, limited, stops⟩
    obtain ⟨first, others⟩ := List.forall_mem_cons.mp again
    refine ⟨course, first, trials, others, Nat.lt_of_succ_lt_succ limited, fun retryable => ?_⟩
    exact Nat.succ.inj (stops retryable)
  · rintro ⟨course, first, trials, others, limited, stops⟩
    refine ⟨.cons course trials, List.forall_mem_cons.mpr ⟨first, others⟩,
      Nat.succ_lt_succ limited, fun retryable => ?_⟩
    exact congrArg Nat.succ (stops retryable)

/-- One attempt, and the others when its error is retryable. -/
theorem runRetrying_succ_runs {retries : Nat} :
    (runRetrying work (retries + 1) attempt starts).Runs steps outcome ↔
      ∃ trial : Trial α, Course (work starts) trial.steps trial.toAttempt ∧
        (¬trial.Retryable ∧ trial.outcome = outcome ∧ steps = trial.steps ++ loggedError outcome ∨
          trial.Retryable ∧ ∃ rest,
            (runRetrying work retries (attempt + 1) (trial.startsAfter starts)).Runs rest outcome ∧
            steps = trial.steps ++ (loggedRetry attempt trial.outcome ++ rest)) := by
  rw [runRetrying]
  constructor
  · intro h
    obtain ⟨⟨started, result⟩, first, rest, rfl, hfirst, hrest⟩ := andThen_runs.mp h
    obtain ⟨course, hcourse, rfl⟩ := attemptLogged_runs.mp hfirst
    cases result with
    | ok a =>
      obtain ⟨rfl, ho⟩ := done_iff.mp hrest
      cases ho
      exact ⟨⟨_, course⟩, hcourse, .inl ⟨not_retryable rfl, rfl, List.append_nil _⟩⟩
    | error e =>
      dsimp only at hrest
      split at hrest
      · next retryable =>
        obtain ⟨_, _, rest, rfl, hlog, hrest⟩ := andThen_runs.mp hrest
        refine ⟨⟨_, course⟩, hcourse, .inr ⟨⟨e, rfl, retryable⟩, rest, hrest, ?_⟩⟩
        rw [record_runs.mp hlog, List.append_assoc]
        rfl
      · next final =>
        obtain ⟨rfl, ho⟩ := done_iff.mp hrest
        cases ho
        exact ⟨⟨_, course⟩, hcourse, .inl ⟨final ∘ retryable_iff.mp, rfl, List.append_nil _⟩⟩
  · rintro ⟨⟨⟨started, result⟩, course⟩, hcourse, h⟩
    have first := attemptLogged_runs.mpr ⟨course, hcourse, rfl⟩
    rcases h with ⟨final, rfl, rfl⟩ | ⟨retryable, rest, hrest, rfl⟩
    · refine andThen_runs.mpr ⟨_, _, [], (List.append_nil _).symm, first, ?_⟩
      cases result with
      | ok a => exact .nil
      | error e =>
        dsimp only
        rw [if_neg (final ∘ retryable_iff.mpr)]
        exact .nil
    · cases result with
      | ok a => exact absurd retryable (not_retryable rfl)
      | error e =>
        refine andThen_runs.mpr ⟨_, _, logged (.retrying attempt e) :: rest, ?_, first, ?_⟩
        · rw [List.append_assoc]
          rfl
        · dsimp only
          rw [if_pos (retryable_iff.mp retryable)]
          exact .cons hrest

theorem runRetrying_runs {retries : Nat} :
    (runRetrying work retries attempt starts).Runs steps outcome ↔
      ∃ earlier last, Attempts work starts (retries + 1) earlier last ∧ last.outcome = outcome ∧
        steps = transcript attempt earlier ++ (last.steps ++ loggedError outcome) := by
  induction retries generalizing attempt starts steps with
  | zero =>
    -- Whatever this attempt comes to, it is the last one.
    rw [runRetrying, runInTransaction_runs]
    constructor
    · rintro ⟨course, run, hcourse, ho, rfl⟩
      exact ⟨[], ⟨run, course⟩, attempts_nil.mpr ⟨hcourse, Nat.one_pos, fun _ => rfl⟩, ho, rfl⟩
    · rintro ⟨earlier, last, h, ho, rfl⟩
      obtain rfl := List.length_eq_zero_iff.mp (Nat.lt_one_iff.mp h.limited)
      exact ⟨_, _, (attempts_nil.mp h).1, ho, rfl⟩
  | succ retries ih =>
    rw [runRetrying_succ_runs]
    constructor
    · rintro ⟨trial, hcourse, ⟨final, ho, rfl⟩ | ⟨retryable, rest, hrest, rfl⟩⟩
      · exact ⟨[], trial, attempts_nil.mpr ⟨hcourse, Nat.succ_pos _, fun h => absurd h final⟩,
          ho, rfl⟩
      · obtain ⟨earlier, last, attempts, ho, rfl⟩ := ih.mp hrest
        refine ⟨trial :: earlier, last, attempts_cons.mpr ⟨hcourse, retryable, attempts⟩, ho, ?_⟩
        simp only [transcript, List.append_assoc]
    · rintro ⟨earlier, last, h, ho, rfl⟩
      cases earlier with
      | nil =>
        -- There would be room for another attempt, and so this one is not retryable.
        obtain ⟨hcourse, -, stops⟩ := attempts_nil.mp h
        exact ⟨last, hcourse, .inl ⟨fun h => by simpa using stops h, ho, rfl⟩⟩
      | cons trial earlier =>
        obtain ⟨hcourse, retryable, attempts⟩ := attempts_cons.mp h
        refine ⟨trial, hcourse, .inr ⟨retryable, _, ih.mpr ⟨earlier, last, attempts, ho, rfl⟩, ?_⟩⟩
        simp only [transcript, List.append_assoc]

theorem runWithRetry_runs {maxAttempts : UInt32} :
    (runWithRetry maxAttempts work).Runs steps outcome ↔
      ∃ earlier last, Attempts work 0 (max 1 maxAttempts.toNat) earlier last ∧
        last.outcome = outcome ∧
        steps = transcript 1 earlier ++ (last.steps ++ loggedError outcome) := by
  have limit : maxAttempts.toNat - 1 + 1 = max 1 maxAttempts.toNat := by omega
  rw [runWithRetry, runRetrying_runs, limit]

-- ---------------------------------------------------------------------------
-- What attempts commit
-- ---------------------------------------------------------------------------

/-- How often the unit was called in these attempts. -/
def calls (trials : List (Trial α)) : Nat := trials.countP (·.started)

/-- In the last attempt the unit is called once more, unless the transaction is not begun. -/
theorem Trials.course_last (trials : Trials work starts (earlier ++ [last])) :
    Course (work (starts + calls earlier)) last.steps last.toAttempt := by
  induction earlier generalizing starts with
  | nil =>
    cases trials with
    | cons course => exact course
  | cons trial earlier ih =>
    cases trials with
    | cons _ rest =>
      have now : trial.startsAfter starts + calls earlier = starts + calls (trial :: earlier) := by
        rw [Trial.startsAfter, calls, calls, List.countP_cons]
        split <;> omega
      exact now ▸ ih rest

theorem transcript_commits {rest : List (Trial α)} (trials : Trials work starts (earlier ++ rest))
    (again : ∀ trial ∈ earlier, trial.Retryable) :
    (transcript attempt earlier).any commits = false := by
  induction earlier generalizing starts attempt with
  | nil => rfl
  | cons trial earlier ih =>
    obtain ⟨⟨e, fails, -⟩, others⟩ := List.forall_mem_cons.mp again
    cases trials with
    | cons course trials =>
      rw [transcript, List.any_append, List.any_append, course.error_commits fails, fails,
        ih trials others]
      rfl

/-- The attempts have ended with one that has succeeded, and this is what has been done in it. -/
def RetriedWith (work : Nat → Work α) (limit : Nat) (steps : List Action.Step) (a : α)
    (done : List Success) : Prop :=
  ∃ earlier last inner, Attempts work 0 limit earlier last ∧ last.outcome = .ok a ∧
    (work (calls earlier)).run.Runs inner (.ok a) ∧
    last.steps = ⟨.begin, .ok ()⟩ ::
      (inner.map inside ++ [⟨.commit, .ok ()⟩, logged .transactionCommitted]) ∧
    steps = transcript 1 earlier ++ last.steps ∧ done = successes inner

theorem runWithRetry_keeps {maxAttempts : UInt32} :
    KeepsSuccess (runWithRetry maxAttempts work)
      (RetriedWith work (max 1 maxAttempts.toNat)) := by
  intro steps outcome runs
  obtain ⟨earlier, last, attempts, rfl, rfl⟩ := runWithRetry_runs.mp runs
  have course := attempts.trials.course_last
  rw [Nat.zero_add] at course
  have quiet : (transcript 1 earlier).any commits = false :=
    transcript_commits attempts.trials attempts.again
  cases ho : last.outcome with
  | error e =>
    refine committed_of_none {} ?_
    rw [List.any_append, List.any_append, quiet, course.error_commits ho]
    rfl
  | ok a =>
    obtain ⟨inner, unit, hsteps⟩ := course.of_ok ho
    rw [loggedError, List.append_nil]
    refine ⟨_, ?_, earlier, last, inner, attempts, ho, unit, hsteps, rfl, rfl⟩
    rw [tally_append, hsteps, ← List.cons_append, List.foldl_append, foldl_unit]
    exact congrArg (· ++ [successes inner]) (committed_of_none {} quiet)

end Work

namespace Store.System

/-- On any store, a unit of work that may be run again is tried until it succeeds or fails for good,
but no more than `maxAttempts` times and at least once; what the last attempt comes to is returned.
On the store in memory, beside any other tasks, the committed rows change by what the unit has done
in the last attempt when that has succeeded, in one move, and no other attempt changes them. -/
theorem retrying_run {α : Type} (maxAttempts : UInt32) (work : Nat → Work α) :
    (∀ steps outcome, (Work.runWithRetry maxAttempts work).Runs steps outcome ↔
      ∃ earlier last, Work.Attempts work 0 (max 1 maxAttempts.toNat) earlier last ∧
        last.outcome = outcome ∧
        steps = Work.transcript 1 earlier ++ (last.steps ++ Work.loggedError outcome)) ∧
    (∀ steps rest, (Work.runWithRetry maxAttempts work).Trace steps rest →
      ∃ more outcome, (Work.runWithRetry maxAttempts work).Runs (steps ++ more) outcome) ∧
    ∀ (Other : Type) [DecidableEq Other] (Result : Other → Type) (connections : Nat)
      (programs : (name : Option Other) → Program (Beside α Result name))
      (happenings : List (Happening (Option Other))),
      programs none = Work.runWithRetry maxAttempts work →
      let sys := start connections programs
      (∃ steps left, (sys.run happenings).Traced programs none steps left) ∧
        Kept (Work.RetriedWith work (max 1 maxAttempts.toNat)) programs sys happenings :=
  ⟨fun _ _ => Work.runWithRetry_runs, fun _ _ => Trace.extend,
    fun _ _ _ connections programs happenings is =>
      ⟨follows_run connections programs happenings none,
        kept_run connections programs (is ▸ Work.runWithRetry_keeps) happenings⟩⟩

/-- Opens an account; the owner is another one each time. -/
def unsettled (starts : Nat) : Work Account :=
  Work.query (.createAccount ⟨if starts = 0 then "alice" else "bob", 10, .usd⟩)

def persistent : (name : Option Empty) → Program (Beside Account (fun _ => Unit) name)
  | none => Work.runWithRetry 3 unsettled

/-- The first commit fails. -/
theorem retrying_persistent :
    let happenings := .arm { commit := true } :: steps none 20
    let sys := (start 1 persistent).run happenings
    sys.store.committed.accounts.values.map (·.owner) = ["bob"] ∧
      Kept (Work.RetriedWith unsettled 3) persistent (start 1 persistent) happenings := by
  intro happenings sys
  exact ⟨by decide +kernel, ((retrying_run 3 unsettled).2.2 _ _ 1 persistent happenings rfl).2⟩

end Store.System

end Passbook
