import Passbook.Proofs.TransferSteps

/-!
# Jobs

A client of a ledger opens accounts, deletes them, and moves money between them. Each job is a
program with a transaction of its own, and what it has committed are all its queries or nothing
(`Follows.history_queries`).
-/

namespace Passbook

open Store Work Dialogue Trace

-- ---------------------------------------------------------------------------
-- Workflows
-- ---------------------------------------------------------------------------

def Work.loggedWorkflow (workflow : String) : Except Error α → List Action.Step
  | .ok _ => [.logged (.workflowCommitted workflow)]
  | .error e => [.logged (.workflowRolledBack workflow e), .logged (.returned e)]

/-- A workflow runs its unit of work in a transaction and then logs how it went. -/
theorem runWorkflow_runs {work : Work α} {workflow : String} :
    (runWorkflow workflow work).Runs steps outcome ↔
      ∃ first, (runInTransaction work).Runs first outcome ∧
        steps = first ++ loggedWorkflow workflow outcome := by
  constructor
  · intro h
    obtain ⟨a, first, second, rfl, hfirst, hsecond⟩ := andThen_runs.mp h
    cases a with
    | ok a =>
      obtain ⟨_, hlog, rfl⟩ := map_runs.mp hsecond
      exact ⟨first, hfirst, by rw [record_runs.mp hlog]; rfl⟩
    | error e =>
      obtain ⟨_, _, rest, rfl, hlog, hrest⟩ := andThen_runs.mp hsecond
      obtain ⟨_, hlog', rfl⟩ := map_runs.mp hrest
      exact ⟨first, hfirst, by rw [record_runs.mp hlog, record_runs.mp hlog']; rfl⟩
  · rintro ⟨first, hfirst, rfl⟩
    refine andThen_runs.mpr ⟨outcome, first, _, rfl, hfirst, ?_⟩
    cases outcome with
    | ok a => exact .cons .nil
    | error e => exact .cons (.cons .nil)

/-- What is committed in a complete run of a unit of work is all that the unit has done. -/
theorem runInTransaction_commits {work : Work α} (h : (runInTransaction work).Runs steps outcome) :
    ∀ done ∈ (tally steps).committed, ∃ a inner, work.run.Runs inner (.ok a) ∧
      done = successes inner := by
  intro done hdone
  rcases runInTransaction_committed h with ⟨none, -⟩ | ⟨a, inner, runs, one, -⟩
  · rw [none] at hdone
    exact nomatch hdone
  · rw [one] at hdone
    exact ⟨a, inner, runs, List.mem_singleton.mp hdone⟩

/-- A workflow that has failed has committed nothing, and one that has succeeded all it has done. -/
theorem runWorkflow_committed {work : Work α} {workflow : String}
    (h : (runWorkflow workflow work).Runs steps outcome) :
    ((tally steps).committed = [] ∧ ∃ e, outcome = .error e) ∨
      ∃ a inner, work.run.Runs inner (.ok a) ∧ (tally steps).committed = [successes inner] ∧
        outcome = .ok a := by
  obtain ⟨first, hfirst, rfl⟩ := runWorkflow_runs.mp h
  have quiet : (loggedWorkflow workflow outcome).any commits = false := by
    cases outcome <;> rfl
  rw [tally_append, committed_of_none _ quiet]
  rcases runInTransaction_committed hfirst with
    ⟨nothing, no⟩ | ⟨a, inner, runs, one, asks | returns⟩
  · cases outcome with
    | ok a => exact absurd rfl (no a)
    | error e => exact .inl ⟨nothing, e, rfl⟩
  · cases asks
  · exact .inr ⟨a, inner, runs, one, Dialogue.done.inj returns⟩

theorem runWorkflow_commits {work : Work α} {workflow : String}
    (h : (runWorkflow workflow work).Runs steps outcome) :
    ∀ done ∈ (tally steps).committed, ∃ a inner, work.run.Runs inner (.ok a) ∧
      done = successes inner := by
  intro done hdone
  rcases runWorkflow_committed h with ⟨none, -⟩ | ⟨a, inner, runs, one, -⟩
  · rw [none] at hdone
    exact nomatch hdone
  · rw [one] at hdone
    exact ⟨a, inner, runs, List.mem_singleton.mp hdone⟩

-- ---------------------------------------------------------------------------
-- Jobs
-- ---------------------------------------------------------------------------

/-- What a client of a ledger asks for. -/
inductive Job
  | transfer (t : NewTransfer)
  | create (account : NewAccount)
  | delete (id : AccountId)

namespace Job

abbrev Row : Job → Type
  | transfer _ => Posting
  | create _ => Account
  | delete _ => Unit

def program : (job : Job) → Program (Except Error job.Row)
  | transfer t => transferMoney t
  | create account => (Query.createAccount account).run
  | delete id => (Query.deleteAccount id).run

/-- The queries of a job that succeeds. -/
def queries : Job → List Query
  | transfer t => t.queries
  | create account => [.createAccount account]
  | delete id => [.deleteAccount id]

theorem query_successes {q : Query} {row : q.Row} {inner : List Request.Step}
    (h : (Work.query q).run.Runs inner (.ok row)) : (successes inner).map (·.1) = [q] := by
  obtain ⟨reply, rest, rfl, hrest⟩ := ask_runs.mp h
  obtain ⟨rfl, hreply⟩ := done_iff.mp hrest
  obtain rfl := Dialogue.done.inj hreply
  rfl

theorem runs_committed {job : Job} {outcome : Except Error job.Row}
    (h : job.program.Runs steps outcome) :
    ∀ done ∈ (tally steps).committed, done.map (·.1) = job.queries := by
  intro done hdone
  cases job with
  | transfer t =>
    obtain ⟨posting, inner, runs, rfl⟩ := runWorkflow_commits h done hdone
    exact transferSteps_runs runs
  | create account =>
    obtain ⟨row, inner, runs, rfl⟩ := runInTransaction_commits h done hdone
    exact query_successes runs
  | delete id =>
    obtain ⟨row, inner, runs, rfl⟩ := runInTransaction_commits h done hdone
    exact query_successes runs

/-- Whatever has been committed for a job up to some point are all its queries. -/
theorem committed {job : Job} {rest : Program (Except Error job.Row)}
    (h : job.program.Trace steps rest) :
    ∀ done ∈ (tally steps).committed, done.map (·.1) = job.queries := by
  obtain ⟨more, outcome, runs⟩ := h.extend
  have grows := committed_grows (tally steps) more
  rw [← tally_append] at grows
  exact fun done hdone => runs_committed runs done (grows.subset hdone)

end Job

namespace Store.System

abbrev JobResult {Name : Type} (jobs : Name → Job) (name : Name) : Type :=
  Except Error (jobs name).Row

/-- No rows, and a task for each job before its first step. -/
abbrev ofJobs {Name : Type} (connections : Nat) (jobs : Name → Job) : System (JobResult jobs) :=
  start connections fun name => (jobs name).program

variable {Name : Type} [DecidableEq Name] {jobs : Name → Job}

/-- Every committed transaction is a job with all its queries. -/
theorem Follows.history_queries {sys : System (JobResult jobs)}
    (f : sys.Follows fun name => (jobs name).program) :
    ∀ c ∈ sys.history, c.deeds.map Deed.query = (jobs c.author).queries := by
  intro c hc
  obtain ⟨steps, rest, traced⟩ := f c.author
  have queries := Job.committed traced.trace _ (traced.told hc)
  rw [List.map_map] at queries
  exact queries

end Store.System

end Passbook
