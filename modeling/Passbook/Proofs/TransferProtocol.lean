import Passbook.Proofs.Requests

/-!
# The protocol of a transfer

What a transfer asks of a database, whatever the database answers: it begins a transaction, makes
five queries in a fixed order, stops at the first one that fails, and commits or rolls back. The
theorem says so in both directions (`transferMoney_speaks`): every run is such a conversation, and
every such conversation takes place with some answers.
-/

namespace Passbook

open Store Work Dialogue Trace

variable {α : Type}

-- ---------------------------------------------------------------------------
-- Calls
-- ---------------------------------------------------------------------------

/-- A database takes part in the step. It does not in what is only logged. -/
def Action.Step.isCall (s : Action.Step) : Bool :=
  match s.1 with
  | .inside (.record _) => false
  | _ => true

def calls (steps : List Action.Step) : List Action.Step := steps.filter Action.Step.isCall

def Store.Success.asked (s : Success) : Request.Step := ⟨.query s.1, .ok s.2⟩

def Action.Step.asked (s : Success) : Action.Step := .inside (Success.asked s)

/-- Queries that have been answered, and one that has failed. -/
def failedAfter (before : List Success) (q : Query) (e : Error) : List Request.Step :=
  before.map Success.asked ++ [⟨.query q, .error e⟩]

@[simp] theorem calls_append (first rest : List Action.Step) :
    calls (first ++ rest) = calls first ++ calls rest := List.filter_append ..

@[simp] theorem calls_logged (event : Logging.Event) : calls [.logged event] = [] := rfl

@[simp] theorem calls_loggedError (outcome : Except Error α) :
    calls (loggedError outcome) = [] := by
  cases outcome <;> rfl

@[simp] theorem calls_loggedWorkflow (workflow : String) (outcome : Except Error α) :
    calls (loggedWorkflow workflow outcome) = [] := by
  cases outcome <;> rfl

-- ---------------------------------------------------------------------------
-- Queries in a row
-- ---------------------------------------------------------------------------

/-- The work makes these queries one after the other, whatever their rows are, and nothing else. -/
inductive Work.InRow : Work α → List Query → Prop
  | done (a : α) : InRow (pure a) []
  | query {q : Query} {next : q.Row → Work α} {rest : List Query} :
      (∀ row, InRow (next row) rest) → InRow (Work.query q >>= next) (q :: rest)

namespace Work.InRow

variable {work : Work α} {queries : List Query} {inner : List Request.Step}

theorem failed_runs {q : Query} {next : q.Row → Work α} {e : Error} :
    (Work.query q >>= next).run.Runs inner (.error e) ↔ inner = [⟨.query q, .error e⟩] ∨
      ∃ row rest, inner = ⟨.query q, .ok row⟩ :: rest ∧ (next row).run.Runs rest (.error e) := by
  constructor
  · intro h
    obtain ⟨reply, rest, rfl, hrest⟩ := ask_runs.mp h
    cases reply with
    | error e' =>
      obtain ⟨rfl, he⟩ := done_iff.mp hrest
      cases he
      exact .inl rfl
    | ok row => exact .inr ⟨row, rest, rfl, hrest⟩
  · rintro (rfl | ⟨row, rest, rfl, h⟩)
    · exact .cons .nil
    · exact .cons h

/-- The work fails when one of the queries does, and then makes no other. -/
theorem error_iff (h : work.InRow queries) {e : Error} :
    work.run.Runs inner (.error e) ↔ ∃ (before : List Success) (q : Query) (after : List Query),
      queries = before.map (·.1) ++ q :: after ∧ inner = failedAfter before q e := by
  induction h generalizing inner with
  | done a =>
    constructor
    · intro runs
      cases (done_iff.mp runs).2
    · rintro ⟨before, q, after, no, -⟩
      cases before <;> cases no
  | @query q next rest _ ih =>
    rw [failed_runs]
    constructor
    · rintro (rfl | ⟨row, later, rfl, runs⟩)
      · exact ⟨[], q, rest, rfl, rfl⟩
      · obtain ⟨before, q', after, rfl, rfl⟩ := (ih row).mp runs
        exact ⟨⟨q, row⟩ :: before, q', after, rfl, rfl⟩
    · rintro ⟨before, q', after, all, rfl⟩
      cases before with
      | nil =>
        obtain ⟨rfl, -⟩ := List.cons.inj all
        exact .inl rfl
      | cons s before =>
        obtain ⟨q, row⟩ := s
        obtain ⟨rfl, others⟩ := List.cons.inj all
        exact .inr ⟨row, _, rfl, (ih row).mpr ⟨before, q', after, others, rfl⟩⟩

end Work.InRow

theorem transferSteps_inRow (t : NewTransfer) : (transferSteps t).InRow t.statements := by
  rw [transferSteps_eq]
  exact .query fun transfer => .query fun debit => .query fun credit => .query fun first =>
    .query fun second => .done _

-- ---------------------------------------------------------------------------
-- Conversations
-- ---------------------------------------------------------------------------

/-- What a transfer that has failed returns once the rollback was answered. -/
def afterRollback (e : Error) : Except Error Unit → Error
  | .ok () => e
  | .error r => .rollbackFailed e r

/-- How a transfer and a database can talk to each other, and what the transfer then returns. -/
inductive Conversation (t : NewTransfer) : List Action.Step → Except Error Posting → Prop
  | refused (e : Error) : Conversation t [⟨.begin, .error e⟩] (.error e)
  | failed {before : List Success} {q : Query} {after : List Query} (e : Error)
      (undone : Except Error Unit) : t.statements = before.map (·.1) ++ q :: after →
      Conversation t (⟨.begin, .ok ()⟩ :: (before.map Action.Step.asked ++
        [⟨.inside (.query q), .error e⟩, ⟨.rollback, undone⟩])) (.error (afterRollback e undone))
  | completed (transfer : Transfer) (debit credit : Entry) (first second : Account)
      (settled : Except Error Unit) :
      Conversation t [⟨.begin, .ok ()⟩, ⟨.inside (.query (.createTransfer t)), .ok transfer⟩,
          ⟨.inside (.query (.createEntry ⟨t.fromAccountId, -t.amount⟩)), .ok debit⟩,
          ⟨.inside (.query (.createEntry ⟨t.toAccountId, t.amount⟩)), .ok credit⟩,
          ⟨.inside (.query (.adjustBalance t.ordered.1)), .ok first⟩,
          ⟨.inside (.query (.adjustBalance t.ordered.2)), .ok second⟩, ⟨.commit, settled⟩]
        (settled.map fun () => t.posting transfer debit credit first second)

theorem calls_asked (before : List Success) :
    calls (before.map Action.Step.asked) = before.map Action.Step.asked := by
  refine List.filter_eq_self.mpr fun s hs => ?_
  obtain ⟨_, -, rfl⟩ := List.mem_map.mp hs
  rfl

/-- In a transaction that is rolled back, the database is asked for the queries up to the one that
fails. -/
theorem calls_failed (before : List Success) (q : Query) (e : Error) (ending : List Action.Step) :
    calls (⟨.begin, .ok ()⟩ :: ((failedAfter before q e).map Action.Step.inside ++ ending)) =
      ⟨.begin, .ok ()⟩ :: (before.map Action.Step.asked ++
        ⟨.inside (.query q), .error e⟩ :: calls ending) := by
  rw [failedAfter, List.map_append, List.map_map, List.append_assoc, ← List.singleton_append,
    calls_append, calls_append]
  exact congrArg (fun asked => _ :: (asked ++ calls (_ :: ending))) (calls_asked before)

theorem Conversation.of_course {t : NewTransfer} {course : List Action.Step}
    {attempt : Attempt Posting} (h : Course (transferSteps t) course attempt) :
    Conversation t (calls course) attempt.outcome := by
  cases h with
  | refused e => exact .refused e
  | @ran inner unit outcome ending runs ends =>
    cases unit with
    | ok posting =>
      obtain ⟨transfer, debit, credit, first, second, rfl, rfl⟩ := (transferSteps_ok_iff t).mp runs
      cases ends with
      | committed => exact .completed transfer debit credit first second (.ok ())
      | commitFailed _ e => exact .completed transfer debit credit first second (.error e)
    | error e =>
      obtain ⟨before, q, after, all, rfl⟩ := (transferSteps_inRow t).error_iff.mp runs
      rw [calls_failed]
      cases ends with
      | rolledBack => exact .failed e (.ok ()) all
      | rollbackFailed _ r => exact .failed e (.error r) all

theorem Conversation.course {t : NewTransfer} {spoken : List Action.Step}
    {outcome : Except Error Posting} (h : Conversation t spoken outcome) :
    ∃ course attempt, Course (transferSteps t) course attempt ∧ attempt.outcome = outcome ∧
      calls course = spoken := by
  cases h with
  | refused e => exact ⟨_, _, .refused e, rfl, rfl⟩
  | @failed before q after e undone all =>
    have runs : (transferSteps t).run.Runs _ (.error e) :=
      (transferSteps_inRow t).error_iff.mpr ⟨before, q, after, all, rfl⟩
    cases undone with
    | ok _ => exact ⟨_, _, .ran runs (.rolledBack e), rfl, calls_failed ..⟩
    | error r => exact ⟨_, _, .ran runs (.rollbackFailed e r), rfl, calls_failed ..⟩
  | completed transfer debit credit first second settled =>
    have runs :=
      (transferSteps_ok_iff t).mpr ⟨transfer, debit, credit, first, second, rfl, rfl⟩
    cases settled with
    | ok _ => exact ⟨_, _, .ran runs (.committed _), rfl, rfl⟩
    | error e => exact ⟨_, _, .ran runs (.commitFailed _ e), rfl, rfl⟩

theorem transferMoney_runs {t : NewTransfer} {steps : List Action.Step}
    {outcome : Except Error Posting} : (transferMoney t).Runs steps outcome ↔
      ∃ course attempt, Course (transferSteps t) course attempt ∧ attempt.outcome = outcome ∧
        steps = course ++ loggedError outcome ++ loggedWorkflow "money_transfer" outcome := by
  rw [transferMoney, runWorkflow_runs]
  constructor
  · rintro ⟨_, runs, rfl⟩
    obtain ⟨course, attempt, hcourse, same, rfl⟩ := runInTransaction_runs.mp runs
    exact ⟨course, attempt, hcourse, same, rfl⟩
  · rintro ⟨course, attempt, hcourse, same, rfl⟩
    exact ⟨_, runInTransaction_runs.mpr ⟨course, attempt, hcourse, same, rfl⟩, rfl⟩

/-- Whatever a database answers, a transfer whose amount can be negated speaks with it in one of
these ways, the debit being of the exact amount. Each of the ways comes about with some answers. -/
theorem transferMoney_speaks (t : NewTransfer) (range : Int64.minValue < t.amount) :
    (-t.amount).toInt = -t.amount.toInt ∧ ∀ spoken outcome,
      (∃ steps, (transferMoney t).Runs steps outcome ∧ calls steps = spoken) ↔
        Conversation t spoken outcome := by
  refine ⟨neg_toInt_of_lt range, fun spoken outcome => ⟨?_, fun h => ?_⟩⟩
  · rintro ⟨steps, runs, rfl⟩
    obtain ⟨course, attempt, hcourse, rfl, rfl⟩ := transferMoney_runs.mp runs
    simpa using Conversation.of_course hcourse
  · obtain ⟨course, attempt, hcourse, rfl, rfl⟩ := h.course
    exact ⟨_, transferMoney_runs.mpr ⟨course, attempt, hcourse, rfl, rfl⟩, by simp⟩

/-- Money goes from the higher to the lower account: the credit comes first. It fails here, and so
does the rollback. -/
theorem transferMoney_speaks_upwards :
    let t : NewTransfer := ⟨⟨2⟩, ⟨1⟩, 5⟩
    let waited : Error := .lockTimeout "account 1"
    let lost : Error := .infrastructure "rollback" "connection lost"
    Int64.minValue < t.amount ∧ (-t.amount).toInt = -t.amount.toInt ∧
      ∃ steps, (transferMoney t).Runs steps (.error (.rollbackFailed waited lost)) ∧
        calls steps =
          [⟨.begin, .ok ()⟩,
            ⟨.inside (.query (.createTransfer t)), .ok ⟨⟨1⟩, ⟨2⟩, ⟨1⟩, 5, default⟩⟩,
            ⟨.inside (.query (.createEntry ⟨⟨2⟩, -5⟩)), .ok ⟨⟨1⟩, ⟨2⟩, -5, default⟩⟩,
            ⟨.inside (.query (.createEntry ⟨⟨1⟩, 5⟩)), .ok ⟨⟨2⟩, ⟨1⟩, 5, default⟩⟩,
            ⟨.inside (.query (.adjustBalance ⟨⟨1⟩, 5⟩)), .error waited⟩,
            ⟨.rollback, .error lost⟩] := by
  intro t waited lost
  have range : Int64.minValue < t.amount := by decide
  obtain ⟨exact, speaks⟩ := transferMoney_speaks t range
  let before : List Success := [⟨.createTransfer t, ⟨⟨1⟩, ⟨2⟩, ⟨1⟩, 5, default⟩⟩,
    ⟨.createEntry ⟨⟨2⟩, -5⟩, ⟨⟨1⟩, ⟨2⟩, -5, default⟩⟩,
    ⟨.createEntry ⟨⟨1⟩, 5⟩, ⟨⟨2⟩, ⟨1⟩, 5, default⟩⟩]
  have stops : t.statements = before.map (·.1) ++ .adjustBalance ⟨⟨1⟩, 5⟩ ::
      [.adjustBalance ⟨⟨2⟩, -5⟩] := rfl
  exact ⟨range, exact, (speaks _ _).mpr (.failed waited (.error lost) stops)⟩

end Passbook
