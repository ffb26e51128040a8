import Passbook.Proofs.Trace
import Passbook.Work.Transaction

/-!
# Units of work

What the run of a unit of work in a transaction asks for, on any store or server and with any
replies (`runInTransaction_runs`): the transaction is begun, the unit runs once, and then the
transaction is committed or rolled back, as the unit succeeds or fails.
-/

namespace Passbook

variable {α : Type}

abbrev Request.Step := Dialogue.Step Request.Reply

abbrev Action.Step := Dialogue.Step Action.Reply

instance Action.nonempty_reply : (op : Action) → Nonempty op.Reply
  | .begin | .commit | .rollback => ⟨.ok ()⟩
  | .inside (.query _) => ⟨.error default⟩
  | .inside .clock => ⟨(default : Instant)⟩
  | .inside (.deliver _) => ⟨.ok ()⟩
  | .inside (.sleep _) | .inside (.record _) | .inside (.tell _) => ⟨()⟩

/-- A request of a unit of work as an action of the program that runs the unit. -/
def Action.Step.inside (s : Request.Step) : Action.Step := ⟨.inside s.1, s.2⟩

def Action.Step.logged (event : Logging.Event) : Action.Step := ⟨.inside (.record event), ()⟩

namespace Work

open Dialogue Trace Action.Step

-- ---------------------------------------------------------------------------
-- The course of a unit of work
-- ---------------------------------------------------------------------------

/-- How the transaction of a unit of work ends: from what the unit came to, with what is asked
for, to what is returned. -/
inductive Ending : Except Error α → List Action.Step → Except Error α → Prop
  | committed (a : α) : Ending (.ok a) [⟨.commit, .ok ()⟩, logged .transactionCommitted] (.ok a)
  | commitFailed (a : α) (e : Error) : Ending (.ok a) [⟨.commit, .error e⟩] (.error e)
  | rolledBack (e : Error) :
      Ending (.error e) [⟨.rollback, .ok ()⟩, logged (.transactionRolledBack e)] (.error e)
  | rollbackFailed (e r : Error) :
      Ending (.error e) [⟨.rollback, .error r⟩, logged (.rollbackFailed e r)]
        (.error (.rollbackFailed e r))

/-- How a unit of work goes: it does not run when the transaction is not begun; otherwise it runs
once, and the transaction ends. -/
inductive Course (work : Work α) : List Action.Step → Attempt α → Prop
  | refused (e : Error) : Course work [⟨.begin, .error e⟩] ⟨false, .error e⟩
  | ran {inner : List Request.Step} {unit outcome : Except Error α} {ending : List Action.Step} :
      work.run.Runs inner unit → Ending unit ending outcome →
      Course work (⟨.begin, .ok ()⟩ :: (inner.map inside ++ ending)) ⟨true, outcome⟩

def loggedError : Except Error α → List Action.Step
  | .ok _ => []
  | .error e => [logged (.returned e)]

-- ---------------------------------------------------------------------------
-- Runs
-- ---------------------------------------------------------------------------

variable {work : Work α} {steps : List Action.Step} {unit outcome : Except Error α}

theorem record_runs {event : Logging.Event} {u : Unit} :
    (Program.record event).Runs steps u ↔ steps = [logged event] := by
  constructor
  · intro h
    obtain ⟨reply, rest, rfl, hrest⟩ := ask_runs.mp h
    obtain ⟨rfl, -⟩ := done_iff.mp hrest
    rfl
  · rintro rfl
    exact .cons .nil

theorem logError_runs {u : Unit} :
    (logError outcome).Runs steps u ↔ steps = loggedError outcome := by
  cases outcome with
  | ok _ => exact done_iff.trans (and_iff_left rfl)
  | error e => exact record_runs

theorem within_runs : work.within.Runs steps outcome ↔
    ∃ inner : List Request.Step, steps = inner.map inside ∧ work.run.Runs inner outcome := by
  rw [within, embed_runs]
  refine exists_congr fun inner => and_congr_right fun _ => ?_
  rw [List.map_id'' fun _ => rfl]

theorem settle_runs {a : α} :
    (settle a).Runs steps outcome ↔ Ending (.ok a) steps outcome := by
  constructor
  · intro h
    obtain ⟨e | _, rest, rfl, hrest⟩ := perform_runs.mp h
    · obtain ⟨rfl, ho⟩ := done_iff.mp hrest
      cases ho
      exact .commitFailed a e
    · obtain ⟨_, hlog, rfl⟩ := map_runs.mp hrest
      obtain rfl := record_runs.mp hlog
      exact .committed a
  · rintro (_ | _)
    · exact .cons (.cons .nil)
    · exact .cons .nil

theorem undo_runs {e : Error} :
    (undo e).Runs steps outcome ↔ Ending (.error e) steps outcome := by
  constructor
  · intro h
    obtain ⟨r | _, rest, rfl, hrest⟩ := perform_runs.mp h
    · obtain ⟨_, hlog, rfl⟩ := map_runs.mp hrest
      obtain rfl := record_runs.mp hlog
      exact .rollbackFailed e r
    · obtain ⟨_, hlog, rfl⟩ := map_runs.mp hrest
      obtain rfl := record_runs.mp hlog
      exact .rolledBack e
  · rintro (_ | _)
    · exact .cons (.cons .nil)
    · exact .cons (.cons .nil)

theorem attemptOnce_runs {attempt : Attempt α} :
    (attemptOnce work).Runs steps attempt ↔ Course work steps attempt := by
  constructor
  · intro h
    obtain ⟨e | _, rest, rfl, hrest⟩ := perform_runs.mp h
    · obtain ⟨rfl, ho⟩ := done_iff.mp hrest
      cases ho
      exact .refused e
    obtain ⟨unit, first, ending, rfl, hunit, hend⟩ := andThen_runs.mp hrest
    obtain ⟨inner, rfl, hinner⟩ := within_runs.mp hunit
    cases unit with
    | ok a =>
      obtain ⟨outcome, hsettle, rfl⟩ := map_runs.mp hend
      exact .ran hinner (settle_runs.mp hsettle)
    | error e =>
      obtain ⟨outcome, hundo, rfl⟩ := map_runs.mp hend
      exact .ran hinner (undo_runs.mp hundo)
  · rintro (e | @⟨inner, unit, outcome, ending, hinner, hend⟩)
    · exact .cons .nil
    · refine perform_runs.mpr ⟨.ok (), _, rfl, andThen_runs.mpr ?_⟩
      refine ⟨unit, _, ending, rfl, within_runs.mpr ⟨inner, rfl, hinner⟩, ?_⟩
      cases unit with
      | ok a => exact map_runs.mpr ⟨outcome, settle_runs.mpr hend, rfl⟩
      | error e => exact map_runs.mpr ⟨outcome, undo_runs.mpr hend, rfl⟩

theorem attemptLogged_runs {attempt : Attempt α} :
    (attemptLogged work).Runs steps attempt ↔
      ∃ course, Course work course attempt ∧ steps = course ++ loggedError attempt.outcome := by
  constructor
  · intro h
    obtain ⟨attempt, course, _, rfl, hcourse, hlog⟩ := andThen_runs.mp h
    obtain ⟨_, herror, rfl⟩ := map_runs.mp hlog
    exact ⟨course, attemptOnce_runs.mp hcourse, by rw [logError_runs.mp herror]⟩
  · rintro ⟨course, hcourse, rfl⟩
    exact andThen_runs.mpr ⟨attempt, course, _, rfl, attemptOnce_runs.mpr hcourse,
      map_runs.mpr ⟨(), logError_runs.mpr rfl, rfl⟩⟩

/-- On any store and with any replies, a unit of work in a transaction goes in one of these ways. -/
theorem runInTransaction_runs : (runInTransaction work).Runs steps outcome ↔
    ∃ course attempt, Course work course attempt ∧ attempt.outcome = outcome ∧
      steps = course ++ loggedError outcome := by
  constructor
  · intro h
    obtain ⟨attempt, hlogged, rfl⟩ := map_runs.mp h
    obtain ⟨course, hcourse, rfl⟩ := attemptLogged_runs.mp hlogged
    exact ⟨course, attempt, hcourse, rfl, rfl⟩
  · rintro ⟨course, attempt, hcourse, rfl, rfl⟩
    exact map_runs.mpr ⟨attempt, attemptLogged_runs.mpr ⟨course, hcourse, rfl⟩, rfl⟩

/-- What is returned has the category of what the unit failed with, however the rollback went. -/
theorem Ending.category {e : Error} (h : Ending (.error e : Except Error α) steps outcome) :
    ∃ e', outcome = .error e' ∧ e'.category = e.category ∧ e'.isRetryable = e.isRetryable := by
  cases h with
  | rolledBack => exact ⟨e, rfl, rfl, rfl⟩
  | rollbackFailed _ r => exact ⟨.rollbackFailed e r, rfl, rfl, rfl⟩

end Work

end Passbook
