import Passbook.Proofs.AllOrNothing

/-!
# Work that is kept

Some programs commit one transaction when they succeed and none when they fail (`KeepsSuccess`).
Beside any other tasks, one that has failed has changed no committed row, and one that has
succeeded has changed them in one move, by what it has done in that transaction (`kept_run`).
-/

namespace Passbook.Store

open Dialogue

-- ---------------------------------------------------------------------------
-- Programs
-- ---------------------------------------------------------------------------

variable {α : Type} {program : Program (Except Error α)} {steps : List Action.Step}
  {Run : List Action.Step → α → List Success → Prop}

/-- A run that fails commits nothing. One that succeeds commits one transaction, and `Run` says
what has been done in it. -/
def KeepsSuccess (program : Program (Except Error α))
    (Run : List Action.Step → α → List Success → Prop) : Prop :=
  ∀ steps outcome, program.Runs steps outcome →
    match outcome with
    | .error _ => (tally steps).committed = []
    | .ok a => ∃ done, (tally steps).committed = [done] ∧ Run steps a done

/-- What a run has committed halfway is nothing, or it is all that the run is going to commit. -/
theorem KeepsSuccess.halfway (keeps : KeepsSuccess program Run)
    {rest : Program (Except Error α)} (trace : program.Trace steps rest) :
    ((tally steps).committed = [] ∧ ∀ a, rest ≠ .done (.ok a)) ∨
      ∃ more a done, (tally steps).committed = [done] ∧ Run (steps ++ more) a done ∧
        ∀ outcome, rest = .done outcome → outcome = .ok a ∧ more = [] := by
  -- The run can be completed, and what is committed halfway is committed in the end, too.
  obtain ⟨more, outcome, ends⟩ := Trace.ends rest
  have complete := keeps _ _ (trace.trans ends)
  have grows : (tally steps).committed <+: (tally (steps ++ more)).committed :=
    tally_append .. ▸ committed_grows _ _
  cases outcome with
  | error e =>
    rw [show (tally (steps ++ more)).committed = [] from complete] at grows
    refine .inl ⟨List.prefix_nil.mp grows, ?_⟩
    rintro a rfl
    exact nomatch (Trace.done_iff.mp ends).2
  | ok a =>
    obtain ⟨done, one, run⟩ := complete
    rw [one, List.prefix_cons_iff] at grows
    rcases grows with none | ⟨tail, some, empty⟩
    · refine .inl ⟨none, ?_⟩
      rintro b rfl
      obtain ⟨rfl, -⟩ := Trace.done_iff.mp ends
      rw [List.append_nil] at one
      exact nomatch none.symm.trans one
    · rw [List.prefix_nil.mp empty] at some
      refine .inr ⟨more, a, done, some, run, ?_⟩
      rintro outcome rfl
      obtain ⟨rfl, same⟩ := Trace.done_iff.mp ends
      exact ⟨(Dialogue.done.inj same).symm, rfl⟩

theorem KeepsSuccess.once (keeps : KeepsSuccess program Run) {rest : Program (Except Error α)}
    (trace : program.Trace steps rest) : (tally steps).committed.length ≤ 1 := by
  rcases keeps.halfway trace with ⟨none, -⟩ | ⟨more, a, done, one, -⟩
  · rw [none]
    exact Nat.zero_le _
  · rw [one]
    exact Nat.le_refl _

-- ---------------------------------------------------------------------------
-- Systems
-- ---------------------------------------------------------------------------

namespace System

variable {Other : Type} [DecidableEq Other] {Result : Other → Type}

/-- What has come of a task that leaves its work behind exactly if it succeeds. -/
inductive Kept (Run : List Action.Step → α → List Success → Prop)
    (programs : (name : Option Other) → Program (Beside α Result name))
    (sys : System (Beside α Result)) (happenings : List (Happening (Option Other))) : Prop
  /-- The task has changed no committed row, and has not returned a success. -/
  | nothing : Untouched none sys happenings →
      (∀ p a, (sys.run happenings).tasks none = some p → p.phase ≠ .finished (.ok a)) →
      Kept Run programs sys happenings
  /-- One move of the task has published what it has done, and nothing else of it has changed a
  committed row. The task has asked for `steps` so far. There may be `more` to come, but in the end
  it returns its success. -/
  | all {before rest : List (Happening (Option Other))} {move : Move}
      {steps more : List Action.Step} {left : Program (Except Error α)} {a : α}
      {done : List Success} :
      happenings = before ++ .move none move :: rest →
      Untouched none sys before →
      ((sys.run before).after (.move none move)).store.committed =
        (sys.run before).store.committed.commit done →
      Untouched none ((sys.run before).after (.move none move)) rest →
      (sys.run happenings).Traced programs none steps left → Run (steps ++ more) a done →
      (∀ p outcome, (sys.run happenings).tasks none = some p → p.phase = .finished outcome →
        outcome = .ok a ∧ more = []) →
      Kept Run programs sys happenings

theorem kept_run (connections : Nat)
    (programs : (name : Option Other) → Program (Beside α Result name))
    (keeps : KeepsSuccess (programs none) Run) (happenings : List (Happening (Option Other))) :
    Kept Run programs (start connections programs) happenings := by
  have once := untouched_or_commitsOnce connections programs none
    (fun _ _ trace => keeps.once trace) happenings
  obtain ⟨steps, left, traced⟩ := follows_run connections programs happenings none
  have finished : ∀ p outcome, ((start connections programs).run happenings).tasks none = some p →
      p.phase = .finished outcome → left = .done outcome := fun p outcome task phase => by
    rw [← (traced.here p task).1, Process.stand, phase]
    rfl
  rcases once with ⟨untouched, empty⟩ | ⟨before, move, rest, tx, rfl, once, one⟩
  · rcases keeps.halfway traced.trace with ⟨-, unfinished⟩ | ⟨more, a, done, one, -⟩
    · exact .nothing untouched fun p a task phase => unfinished a (finished p _ task phase)
    · exact absurd (empty.symm.trans (traced.committed.trans one)) (List.cons_ne_nil _ _).symm
  · rcases keeps.halfway traced.trace with ⟨empty, -⟩ | ⟨more, a, done, same, run, ends⟩
    · exact absurd (one.symm.trans (traced.committed.trans empty)) (List.cons_ne_nil _ _)
    · obtain rfl := (List.cons.inj (one.symm.trans (traced.committed.trans same))).1
      exact .all rfl once.first once.publishes once.last traced run fun p outcome task phase =>
        ends outcome (finished p outcome task phase)

end System

end Passbook.Store
